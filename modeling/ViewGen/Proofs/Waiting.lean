import ViewGen.Proofs.Attempts
import ViewGen.Proofs.LockContents
import ViewGen.Proofs.Names
import ViewGen.Proofs.Resuming

/-!
# Waiting for a lock

Time only ever speaks against a lock file: what is stale, or cannot be judged, stays so.  Hence what comes
of acquiring a lock follows from the last look at the place of the lock file, however many looks came
before it.
-/

namespace ViewGen

/-- The process that runs on a machine is alive, and can be asked for. -/
structure Machine.Runs (machine : Machine) : Prop where
  fits : Lock.fitsProcessId machine.processId = true
  alive : machine.processId ∈ machine.alive

namespace Lock

variable {lock : Lock} {w later : World} {failure fault : LockFault} {polls : Nat}

/-! ## The directory of the lock file -/

/-- A lock file has a name of its own in some directory. -/
theorem exists_ofManifest_file (directory : Path) (file : String) (timeout : Timeout) :
    ∃ (base : Path) (last : String), (ofManifest directory file timeout).file =
      ⟨base.anchor, base.parts ++ [last ++ ".lock"]⟩ := by
  obtain ⟨base, last, -, hending⟩ := Path.joinName_append directory file
  exact ⟨base, last, hending ".lock" (by decide) (by decide)⟩

/-- What is led to has its directory. -/
theorem directoryAlong_of_leads {directory : Path} {file : String} {timeout : Timeout}
    (hl : (ofManifest directory file timeout).file.Leads w.disk w.current) :
    w.disk.DirectoryAlong w.current (ofManifest directory file timeout).file.parent := by
  obtain ⟨base, last, hfile⟩ := exists_ofManifest_file directory file timeout
  rw [hfile] at hl ⊢
  rw [Path.parent, List.dropLast_concat]
  exact Path.leads_concat hl

/-! ## Time and verdicts -/

/-- As long as nothing else changes, only a lock that is left to its owner is judged otherwise later. -/
theorem verdict_of_le (machine : Machine) {now moment : Moment} (node : Option Node)
    (h : now ≤ moment) (hne : verdict machine now node ≠ .ok false) :
    verdict machine moment node = verdict machine now node := by
  cases node with
  | none => rfl
  | some node =>
    cases howner : Owner.ofNode machine.depths.owner node with
    | error cause => simp only [verdict, howner]
    | ok owner =>
      cases owner with
      | record members => simp only [verdict, howner, isStale?]
      | unknown =>
        -- A file without an owner has stood for some time, and does so even longer.
        by_cases hold : node.changed + (grace : Int) ≤ now
        · have hlater : node.changed + (grace : Int) ≤ moment := hold.trans h
          simp only [verdict, howner, isStale?, hold, hlater, decide_true]
        · refine absurd ?_ hne
          simp only [verdict, howner, isStale?, hold, decide_false]

/-- Whether a lock file names a process of this machine that is alive. -/
def LiveOwner (machine : Machine) (content : ByteArray) : Prop :=
  ∃ members id, Owner.ofNode machine.depths.owner (.file content 0) = .ok (.record members) ∧
    Owner.isOn members machine.hostName = true ∧ Owner.processId? members = some id ∧
    fitsProcessId id = true ∧ id ∈ machine.alive

/-- An owner that is alive keeps its lock, however late it is. -/
theorem LiveOwner.verdict {machine : Machine} {content : ByteArray}
    (h : LiveOwner machine content) (now changed : Moment) :
    Lock.verdict machine now (some (.file content changed)) = .ok false := by
  obtain ⟨members, id, howner, hhost, hid, hfits, halive⟩ := h
  have hnode : Owner.ofNode machine.depths.owner (.file content changed) = .ok (.record members) :=
    howner
  have hcontains : machine.alive.contains id = true := List.contains_iff_mem.mpr halive
  simp only [Lock.verdict, hnode, isStale?, hhost, hid, hfits, hcontains, if_true, Bool.not_true]

/-- What a process writes into a lock file names an owner that is alive. -/
theorem liveOwner_content {machine : Machine} (h : machine.Runs) (moment : Moment) :
    LiveOwner machine (Owner.content machine moment).toUTF8 := by
  obtain ⟨time, hparse⟩ := Owner.parse_content moment h.fits
  have hhost : Owner.isOn (Owner.members machine time) machine.hostName = true := by
    simp [Owner.isOn, Owner.members, Json.lookup]
  have hid : Owner.processId? (Owner.members machine time) = some machine.processId := by
    simp [Owner.processId?, Owner.members, Json.lookup]
  refine ⟨Owner.members machine time, machine.processId, ?_, hhost, hid, h.fits, h.alive⟩
  simp only [Owner.ofNode, Utf8.decode_toUTF8, Owner.ofText_withLineFeeds]
  rw [Owner.ofText, hparse]

/-! ## The last look -/

/-- The world after some polls in vain. -/
def polled (polls : Nat) (w : World) : World :=
  { w with now := w.now + (polls * Timeout.pollInterval : Nat) }

theorem polled_succ (polls : Nat) (w : World) :
    polled polls { w with now := w.now + Timeout.pollInterval } = polled (polls + 1) w := by
  simp only [polled, World.mk.injEq, true_and, and_true, Nat.succ_mul, Int.natCast_add]
  rw [Int.add_assoc, Int.add_comm (Timeout.pollInterval : Int)]

theorem attemptFor_of_attempt {answer : Bool} (h : lock.attempt w = .ok answer later) :
    lock.attemptFor failure polls w =
      if answer then .ok () later
      else match polls with
        | 0 => .error failure later
        | polls + 1 =>
          lock.attemptFor failure polls { later with now := later.now + Timeout.pollInterval } := by
  cases polls with
  | zero =>
    rw [attemptFor, Job.bind_of_ok h]
    cases answer <;> rfl
  | succ polls =>
    rw [attemptFor, Job.bind_of_ok h]
    cases answer <;> rfl

theorem attemptFor_of_error (h : lock.attempt w = .error fault later) :
    lock.attemptFor failure polls w = .error fault later := by
  cases polls with
  | zero => exact Job.bind_of_error h
  | succ polls => exact Job.bind_of_error h

theorem le_now_polled (polls : Nat) (w : World) : w.now ≤ (polled polls w).now :=
  Int.le_add_of_nonneg_right (Int.natCast_nonneg _)

/-- A lock file that cannot be judged ends the wait at the first look. -/
theorem attemptFor_of_unjudged (hl : lock.file.Leads w.disk w.current)
    (hverdict : verdict w.machine w.now (w.disk.node? (lock.place w.current)) = .error fault) :
    ∃ later, lock.attemptFor failure polls w = .error fault later := by
  have hspec := attempt_spec hl
  rw [hverdict] at hspec
  obtain ⟨later, hattempt⟩ := hspec
  exact ⟨later, attemptFor_of_error hattempt⟩

/-- What the first look finds free is taken. -/
theorem attemptFor_of_free (hl : lock.file.Leads w.disk w.current)
    (hverdict : verdict w.machine w.now (w.disk.node? (lock.place w.current)) = .ok true) :
    ∃ later, lock.attemptFor failure polls w = .ok () later ∧ lock.Taken w later := by
  have hspec := attempt_spec hl
  rw [hverdict] at hspec
  obtain ⟨later, hattempt, htaken⟩ := hspec
  exact ⟨later, attemptFor_of_attempt hattempt, htaken⟩

/-- What the first look leaves to its owner is waited for, if there is another look. -/
theorem attemptFor_of_busy (hl : lock.file.Leads w.disk w.current)
    (hverdict : verdict w.machine w.now (w.disk.node? (lock.place w.current)) = .ok false) :
    lock.attemptFor failure polls w = match polls with
      | 0 => .error failure w
      | polls + 1 =>
        lock.attemptFor failure polls { w with now := w.now + Timeout.pollInterval } := by
  have hspec := attempt_spec hl
  rw [hverdict] at hspec
  exact attemptFor_of_attempt hspec

/-- The last look decides. -/
theorem attemptFor_spec (failure : LockFault) (polls : Nat)
    (hl : lock.file.Leads w.disk w.current) :
    match verdict w.machine (polled polls w).now (w.disk.node? (lock.place w.current)) with
    | .error fault => ∃ later, lock.attemptFor failure polls w = .error fault later
    | .ok false => lock.attemptFor failure polls w = .error failure (polled polls w)
    | .ok true => ∃ later, lock.attemptFor failure polls w = .ok () later ∧ lock.Taken w later := by
  induction polls generalizing w with
  | zero =>
    have hzero : polled 0 w = w := by simp [polled]
    rw [hzero]
    cases hverdict : verdict w.machine w.now (w.disk.node? (lock.place w.current)) with
    | error fault => exact attemptFor_of_unjudged hl hverdict
    | ok answer =>
      cases answer with
      | false => exact attemptFor_of_busy hl hverdict
      | true => exact attemptFor_of_free hl hverdict
  | succ polls ih =>
    -- What the first look finds free, or cannot judge, the last look would find so, too.
    have hlater := verdict_of_le w.machine (w.disk.node? (lock.place w.current))
      (le_now_polled (polls + 1) w)
    cases hverdict : verdict w.machine w.now (w.disk.node? (lock.place w.current)) with
    | error fault =>
      rw [hlater (by simp [hverdict]), hverdict]
      exact attemptFor_of_unjudged hl hverdict
    | ok answer =>
      cases answer with
      | true =>
        rw [hlater (by simp [hverdict]), hverdict]
        exact attemptFor_of_free hl hverdict
      | false =>
        -- The other looks are those of a wait that begins one poll later.
        have hwait := ih (w := { w with now := w.now + Timeout.pollInterval }) hl
        rw [polled_succ] at hwait
        rw [attemptFor_of_busy hl hverdict]
        cases hlast : verdict w.machine (polled (polls + 1) w).now
            (w.disk.node? (lock.place w.current)) with
        | error fault =>
          rw [hlast] at hwait
          exact hwait
        | ok found =>
          rw [hlast] at hwait
          cases found with
          | false => exact hwait
          | true =>
            obtain ⟨later, hend, htaken⟩ := hwait
            exact ⟨later, hend, htaken.current, htaken.leads, htaken.free, htaken.outside,
              htaken.owned⟩

/-! ## What acquiring comes to -/

/-- What a lock fails with that was not free until the end. -/
def lost (lock : Lock) : LockFault :=
  match lock.timeout.polls? with
  | some _ => .timeout lock.file lock.timeout
  | none => .unending

/-- How many looks follow the first one. -/
def patience (lock : Lock) (w : World) : Nat :=
  match lock.timeout.polls? with
  | some polls => polls
  | none => lock.pollsUntilSettled w

theorem await_eq (lock : Lock) (w : World) :
    lock.await w = lock.attemptFor lock.lost (lock.patience w) w := by
  unfold await lost patience
  cases lock.timeout.polls? <;> rfl

/-- What an attempt fails with where the path of the lock file leads nowhere. -/
def refusal (lock : Lock) : DiskFault → LockFault
  | .system cause => .cannotCreate lock.file cause
  | .embeddedNul => .disk .embeddedNul

theorem create_of_locate {cause : DiskFault}
    (h : lock.file.locate w.disk w.current = .error cause) :
    lock.create w = .error (lock.refusal cause) w := by
  have hc : w.disk.createFile w.current w.now lock.file (Owner.content w.machine w.now).toUTF8 =
      .error cause := by
    simp only [Disk.createFile, Disk.createNode, h]
  unfold create
  simp only [hc]
  cases cause with
  | embeddedNul => rfl
  | system cause =>
    cases cause with
    | «exists» => exact absurd h (lock.file.locate_ne_exists _ _)
    | _ => rfl

/-- What acquiring the lock comes to once its directory is there. -/
def found (lock : Lock) (w : World) : Except LockFault Bool :=
  match lock.file.locate w.disk w.current with
  | .error cause => .error (lock.refusal cause)
  | .ok place => verdict w.machine (polled (lock.patience w) w).now (w.disk.node? place)

/-- What acquiring the lock comes to. -/
def answer (lock : Lock) (w : World) : Except LockFault Unit :=
  match w.disk.ensureDirectories w.current w.now lock.file.parent with
  | (_, .error cause) => .error (.disk cause)
  | (made, .ok ()) =>
    match lock.found { w with disk := made } with
    | .error fault => .error fault
    | .ok false => .error lock.lost
    | .ok true => .ok ()

/-- A lock whose owner is alive is waited for in vain, and the disk stays as it is. -/
theorem acquire_of_liveOwner {content : ByteArray} {changed : Moment} (hfree : lock.acquired = false)
    (hd : w.disk.DirectoryAlong w.current lock.file.parent) (hl : lock.file.Leads w.disk w.current)
    (hn : w.disk.node? (lock.place w.current) = some (.file content changed))
    (hlive : LiveOwner w.machine content) :
    lock.acquire w = .error lock.lost (polled (lock.patience w) w) := by
  have hawait := attemptFor_spec lock.lost (lock.patience w) hl
  rw [hn, hlive.verdict] at hawait
  rw [acquire_of_directory hfree hd]
  exact Job.bind_of_error ((lock.await_eq w).trans hawait)

end Lock

end ViewGen
