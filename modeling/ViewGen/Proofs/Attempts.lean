import ViewGen.Proofs.Locking
import ViewGen.Proofs.ManifestStore

/-!
# Attempts on a lock

What comes of an attempt follows from the machine, the moment and what stands at the place of the lock
file; nothing else on the disk counts.  An attempt that succeeds has put the lock file in the place of
whatever file stood there, and changed nothing else.
-/

namespace ViewGen.Lock

variable {lock : Lock} {w v later : World} {failure : LockFault} {polls : Nat}

/-! ## What decides over an attempt -/

namespace Owner

/-- What a node at the place of a lock says about the owner. -/
def ofNode (limit : Json.DepthLimit) : Node → Except Json.Fault Owner
  | .directory _ => .ok .unknown
  | .file content _ =>
    match Utf8.decode content with
    | .error _ => .ok .unknown
    | .ok text => ofText limit (Text.withLineFeeds text)

theorem read_of_stat {disk : Disk} {current : Location} {path : Path} {node : Node}
    (limit : Json.DepthLimit) (h : disk.stat current path = .ok node) :
    read limit disk current path = ofNode limit node := by
  cases node with
  | directory changed => simp only [read, Disk.readText, Disk.fileContent, h, ofNode]
  | file content changed =>
    simp only [read, Disk.readText, Disk.fileContent, h, ofNode]
    cases Utf8.decode content <;> rfl

end Owner

/-- Whether an attempt succeeds, by what stands at the place of the lock file.  What is stale is removed
first, which no directory can be. -/
def verdict (machine : Machine) (now : Moment) : Option Node → Except LockFault Bool
  | none => .ok true
  | some node =>
    match Owner.ofNode machine.depths.owner node with
    | .error _ => .error .tooDeep
    | .ok owner =>
      match isStale? machine now node.changed owner with
      | none => .error .processOutOfRange
      | some false => .ok false
      | some true => if node.isDirectory then .error (.disk (.system .isDirectory)) else .ok true

/-- The lock file stands at its place now, where no directory stood, and nothing else has changed on the
disk. -/
structure Taken (lock : Lock) (w later : World) : Prop where
  current : later.current = w.current
  leads : lock.file.Leads w.disk w.current
  free : ¬ w.disk.IsDirectoryAt (lock.place w.current)
  outside : w.disk.SameOutside {lock.place w.current} later.disk
  owned : ∃ machine moment,
    later.disk.file? (lock.place w.current) = some (Owner.content machine moment).toUTF8

/-! ## One attempt -/

theorem create_taken (hl : lock.file.Leads w.disk w.current)
    (hn : w.disk.node? (lock.place w.current) = none) : lock.Taken w (lock.created w) := by
  have hd := Disk.not_isDirectoryAt_of_none hn
  exact
    { current := rfl
      leads := hl
      free := hd
      outside := fun at' hout => Disk.node?_put_of_ne _ hout
      owned := ⟨w.machine, w.now,
        Disk.file?_put_self _ _ _ (Disk.ne_nil_of_not_isDirectoryAt hd)⟩ }

theorem create_eq_true :
    lock.create w = .ok true later ↔ lock.file.Leads w.disk w.current ∧
      w.disk.node? (lock.place w.current) = none ∧ later = lock.created w := by
  constructor
  · intro h
    unfold create at h
    simp only at h
    split at h
    · rename_i made hmade
      cases h
      obtain ⟨hl, hn, rfl⟩ := Disk.createNode_eq_ok.mp hmade
      exact ⟨hl, hn, rfl⟩
    · cases h
    · cases h
    · cases h
  · rintro ⟨hl, hn, rfl⟩
    exact create_of_free hl hn

theorem create_of_some {node : Node} (hl : lock.file.Leads w.disk w.current)
    (hn : w.disk.node? (lock.place w.current) = some node) : lock.create w = .ok false w := by
  have hc : w.disk.createFile w.current w.now lock.file (Owner.content w.machine w.now).toUTF8 =
      .error (.system .exists) := Disk.createNode_exists (Disk.stat_eq_ok.mpr ⟨hl, hn⟩)
  unfold create
  simp only [hc]

theorem stale_of_some {node : Node} (hl : lock.file.Leads w.disk w.current)
    (hn : w.disk.node? (lock.place w.current) = some node) :
    lock.stale w = match Owner.ofNode w.machine.depths.owner node with
      | .error _ => .error .tooDeep w
      | .ok owner =>
        match isStale? w.machine w.now node.changed owner with
        | none => .error .processOutOfRange w
        | some answer => .ok answer w := by
  have hs := Disk.stat_eq_ok.mpr ⟨hl, hn⟩
  have hread := Owner.read_of_stat w.machine.depths.owner hs
  cases howner : Owner.ofNode w.machine.depths.owner node with
  | error fault => simp only [stale, hs, hread, howner]
  | ok owner =>
    cases hstale : isStale? w.machine w.now node.changed owner <;>
      simp only [stale, hs, hread, howner, hstale]

theorem remove_of_file {content : ByteArray} {changed : Moment}
    (hl : lock.file.Leads w.disk w.current)
    (hn : w.disk.node? (lock.place w.current) = some (.file content changed)) :
    lock.remove w = .ok () { w with disk := w.disk.erase (lock.place w.current) } :=
  Job.withFault_eq_ok.mpr (Job.change_eq_ok.mpr
    ⟨_, Disk.removeIfPresent_of_file hl (Disk.file?_eq_some.mpr ⟨changed, hn⟩), rfl⟩)

theorem remove_of_directory {changed : Moment} (hl : lock.file.Leads w.disk w.current)
    (hn : w.disk.node? (lock.place w.current) = some (.directory changed)) :
    lock.remove w = .error (.disk (.system .isDirectory)) w :=
  Job.withFault_eq_error.mpr
    ⟨_, Job.change_eq_error.mpr ⟨Disk.removeIfPresent_of_directory hl hn, rfl⟩, rfl⟩

/-- Where a file has been removed the lock file is created. -/
theorem create_of_erased {content : ByteArray} {changed : Moment}
    (hl : lock.file.Leads w.disk w.current)
    (hn : w.disk.node? (lock.place w.current) = some (.file content changed)) :
    lock.create { w with disk := w.disk.erase (lock.place w.current) } =
      .ok true (lock.created { w with disk := w.disk.erase (lock.place w.current) }) := by
  have hd := Disk.not_isDirectoryAt_of_file hn
  exact create_of_free ((Disk.keepsDirectories_erase hd).leads hl)
    (Disk.node?_erase_self (Disk.ne_nil_of_not_isDirectoryAt hd))

/-- A stale file is replaced by the lock file. -/
theorem replace_taken {content : ByteArray} {changed : Moment}
    (hl : lock.file.Leads w.disk w.current)
    (hn : w.disk.node? (lock.place w.current) = some (.file content changed)) :
    ∃ later, (lock.remove >>= fun _ => lock.create) w = .ok true later ∧ lock.Taken w later := by
  have hd := Disk.not_isDirectoryAt_of_file hn
  refine ⟨_, (Job.bind_of_ok (remove_of_file hl hn)).trans (create_of_erased hl hn), ?_⟩
  have htaken : lock.Taken { w with disk := w.disk.erase (lock.place w.current) } _ :=
    create_taken ((Disk.keepsDirectories_erase hd).leads hl)
      (Disk.node?_erase_self (Disk.ne_nil_of_not_isDirectoryAt hd))
  exact
    { current := rfl
      leads := hl
      free := hd
      outside := fun at' hout => (htaken.outside at' hout).trans (Disk.node?_erase_of_ne hout)
      owned := htaken.owned }

/-- What is stale but a directory stays. -/
theorem replace_of_directory {changed : Moment} (hl : lock.file.Leads w.disk w.current)
    (hn : w.disk.node? (lock.place w.current) = some (.directory changed)) :
    (lock.remove >>= fun _ => lock.create) w = .error (.disk (.system .isDirectory)) w :=
  Job.bind_of_error (remove_of_directory hl hn)

/-- An attempt that finds a file in the way goes on with judging it. -/
theorem attempt_of_create_false (h : lock.create w = .ok false w) :
    lock.attempt w = (do
      if ← lock.stale then
        Job.note .info ("Removing stale lock " ++ lock.file.render)
        lock.remove
        lock.create
      else pure false : Job LockFault Bool) w :=
  Job.bind_of_ok h

/-- The machine, the moment and the node at the place of the lock file decide. -/
theorem attempt_spec (hl : lock.file.Leads w.disk w.current) :
    match verdict w.machine w.now (w.disk.node? (lock.place w.current)) with
    | .error fault => ∃ later, lock.attempt w = .error fault later
    | .ok false => lock.attempt w = .ok false w
    | .ok true => ∃ later, lock.attempt w = .ok true later ∧ lock.Taken w later := by
  cases hn : w.disk.node? (lock.place w.current) with
  | none => exact ⟨lock.created w, Job.bind_of_ok (create_of_free hl hn), create_taken hl hn⟩
  | some node =>
    have hstale := stale_of_some hl hn
    rw [attempt_of_create_false (create_of_some hl hn)]
    simp only [verdict]
    cases howner : Owner.ofNode w.machine.depths.owner node with
    | error fault =>
      rw [howner] at hstale
      exact ⟨w, Job.bind_of_error hstale⟩
    | ok owner =>
      rw [howner] at hstale
      simp only at hstale ⊢
      cases hanswer : isStale? w.machine w.now node.changed owner with
      | none =>
        rw [hanswer] at hstale
        exact ⟨w, Job.bind_of_error hstale⟩
      | some answer =>
        rw [hanswer] at hstale
        rw [Job.bind_of_ok hstale]
        cases answer with
        | false => rfl
        | true =>
          -- The stale lock is noted before it is removed, which only the log shows.
          cases node with
          | directory changed => exact ⟨_, replace_of_directory (w := { w with log := _ }) hl hn⟩
          | file content changed =>
            obtain ⟨later, hreplace, htaken⟩ := replace_taken (w := { w with
              log := w.log ++ [⟨.info, "Removing stale lock " ++ lock.file.render⟩] }) hl hn
            exact ⟨later, hreplace, htaken.current, htaken.leads, htaken.free, htaken.outside,
              htaken.owned⟩

theorem attempt_leads {answer : Bool} (h : lock.attempt w = .ok answer later) :
    lock.file.Leads w.disk w.current := by
  obtain ⟨created, middle, hcreate, -⟩ := Job.bind_eq_ok.mp h
  cases created with
  | false => exact (leads_of_create_false hcreate).2
  | true => exact (create_eq_true.mp hcreate).1

theorem attempt_eq_ok {answer : Bool} (h : lock.attempt w = .ok answer later) :
    verdict w.machine w.now (w.disk.node? (lock.place w.current)) = .ok answer ∧
      match answer with
      | true => lock.Taken w later
      | false => later = w := by
  have hspec := attempt_spec (attempt_leads h)
  cases hverdict : verdict w.machine w.now (w.disk.node? (lock.place w.current)) with
  | error fault =>
    rw [hverdict] at hspec
    obtain ⟨last, hlast⟩ := hspec
    rw [hlast] at h
    cases h
  | ok found =>
    rw [hverdict] at hspec
    cases found with
    | true =>
      obtain ⟨last, hlast, htaken⟩ := hspec
      rw [hlast] at h
      cases h
      exact ⟨rfl, htaken⟩
    | false =>
      simp only at hspec
      rw [hspec] at h
      cases h
      exact ⟨rfl, rfl⟩

/-! ## Attempts until one succeeds -/

/-- Two worlds in which every attempt on the lock ends alike. -/
structure Alike (lock : Lock) (w v : World) : Prop where
  machine : v.machine = w.machine
  now : v.now = w.now
  leads : lock.file.Leads v.disk v.current
  node : v.disk.node? (lock.place v.current) = w.disk.node? (lock.place w.current)

theorem Alike.attempt (hlike : lock.Alike w v) {answer : Bool}
    (h : lock.attempt w = .ok answer later) : ∃ last, lock.attempt v = .ok answer last := by
  obtain ⟨hverdict, -⟩ := attempt_eq_ok h
  have hspec := attempt_spec hlike.leads
  rw [hlike.machine, hlike.now, hlike.node, hverdict] at hspec
  cases answer with
  | true =>
    obtain ⟨last, hlast, -⟩ := hspec
    exact ⟨last, hlast⟩
  | false => exact ⟨v, hspec⟩

theorem attempt_or_eq_ok {rest : Job LockFault Unit} {u : Unit}
    (h : (do if ← lock.attempt then pure () else rest) w = .ok u later) :
    (lock.attempt w = .ok true later ∧ lock.Taken w later) ∨
      (lock.attempt w = .ok false w ∧ rest w = .ok u later) := by
  obtain ⟨answer, middle, hattempt, h⟩ := Job.bind_eq_ok.mp h
  obtain ⟨-, hend⟩ := attempt_eq_ok hattempt
  cases answer with
  | true =>
    cases h
    exact Or.inl ⟨hattempt, hend⟩
  | false =>
    cases hend
    exact Or.inr ⟨hattempt, h⟩

theorem attemptFor_taken {u : Unit} (h : lock.attemptFor failure polls w = .ok u later) :
    lock.Taken w later := by
  induction polls generalizing w with
  | zero =>
    obtain ⟨-, htaken⟩ | ⟨-, h⟩ := attempt_or_eq_ok h
    · exact htaken
    · cases h
  | succ polls ih =>
    obtain ⟨-, htaken⟩ | ⟨-, h⟩ := attempt_or_eq_ok h
    · exact htaken
    · have htaken : lock.Taken { w with now := w.now + Timeout.pollInterval } later := ih h
      exact ⟨htaken.current, htaken.leads, htaken.free, htaken.outside, htaken.owned⟩

/-- Attempts succeed in one of two worlds that are alike if they do in the other, since time passes in
both. -/
theorem Alike.attemptFor (hlike : lock.Alike w v) {u : Unit}
    (h : lock.attemptFor failure polls w = .ok u later) :
    ∃ last, lock.attemptFor failure polls v = .ok () last := by
  induction polls generalizing w v with
  | zero =>
    obtain ⟨hattempt, -⟩ | ⟨-, h⟩ := attempt_or_eq_ok h
    · obtain ⟨last, hlast⟩ := hlike.attempt hattempt
      exact ⟨last, Job.bind_of_ok hlast⟩
    · cases h
  | succ polls ih =>
    obtain ⟨hattempt, -⟩ | ⟨hattempt, h⟩ := attempt_or_eq_ok h
    · obtain ⟨last, hlast⟩ := hlike.attempt hattempt
      exact ⟨last, Job.bind_of_ok hlast⟩
    · obtain ⟨last, hlast⟩ := hlike.attempt hattempt
      obtain ⟨-, hsame⟩ := attempt_eq_ok hlast
      cases hsame
      have hwait : lock.Alike { w with now := w.now + Timeout.pollInterval }
          { v with now := v.now + Timeout.pollInterval } :=
        ⟨hlike.machine, by rw [hlike.now], hlike.leads, hlike.node⟩
      obtain ⟨last, hend⟩ := ih hwait h
      exact ⟨last, (Job.bind_of_ok hlast).trans hend⟩

theorem Alike.pollsUntilSettled (hlike : lock.Alike w v)
    (hl : lock.file.Leads w.disk w.current) :
    lock.pollsUntilSettled v = lock.pollsUntilSettled w := by
  have hstat : v.disk.stat v.current lock.file = w.disk.stat w.current lock.file := by
    rw [Disk.stat_of_leads hlike.leads, Disk.stat_of_leads hl]
    rw [show v.disk.node? (lock.file.resolve v.current) = _ from hlike.node]
    rfl
  rw [Lock.pollsUntilSettled, Lock.pollsUntilSettled, hstat, hlike.now]

/-! ## Acquiring -/

theorem await_taken {u : Unit} (h : lock.await w = .ok u later) : lock.Taken w later := by
  unfold await at h
  cases hpolls : lock.timeout.polls? with
  | some polls =>
    rw [hpolls] at h
    exact attemptFor_taken h
  | none =>
    rw [hpolls] at h
    exact attemptFor_taken (w := w) h

theorem Alike.await (hlike : lock.Alike w v) {u : Unit} (h : lock.await w = .ok u later) :
    ∃ last, lock.await v = .ok () last := by
  have hsettled := hlike.pollsUntilSettled (await_taken h).leads
  unfold Lock.await at h ⊢
  cases hpolls : lock.timeout.polls? with
  | some polls =>
    rw [hpolls] at h
    exact hlike.attemptFor h
  | none =>
    rw [hpolls] at h
    have hwaited : lock.attemptFor .unending (lock.pollsUntilSettled w) w = .ok u later := h
    rw [← hsettled] at hwaited
    exact hlike.attemptFor hwaited

/-- Acquiring makes the directory of the lock file and puts the lock file there. -/
theorem acquire_taken {held : Lock} (hfree : lock.acquired = false)
    (h : lock.acquire w = .ok held later) :
    ∃ made, w.disk.ensureDirectories w.current w.now lock.file.parent = (made, .ok ()) ∧
      lock.Taken { w with disk := made } later := by
  obtain ⟨-, middle, waited, log, hmake, hawait, rfl⟩ := await_of_acquire hfree h
  obtain ⟨made, hmade, rfl⟩ := Job.ensureDirectories_eq_ok.mp (Job.withFault_eq_ok.mp hmake)
  have htaken := await_taken hawait
  exact ⟨made, hmade, htaken.current, htaken.leads, htaken.free, htaken.outside, htaken.owned⟩

/-- A lock is acquired in a world that is like another one in which it is, as soon as the directories
are made. -/
theorem acquire_of_alike {held : Lock} (hfree : lock.acquired = false)
    (h : lock.acquire w = .ok held later) {made made' : Disk}
    (hmade : w.disk.ensureDirectories w.current w.now lock.file.parent = (made, .ok ()))
    (hmade' : v.disk.ensureDirectories v.current v.now lock.file.parent = (made', .ok ()))
    (hlike : lock.Alike { w with disk := made } { v with disk := made' }) :
    ∃ held last, lock.acquire v = .ok held last := by
  obtain ⟨-, middle, waited, -, hmake, hawait, -⟩ := await_of_acquire hfree h
  rw [acquire_eq hfree]
  obtain ⟨found, hfound, rfl⟩ := Job.ensureDirectories_eq_ok.mp (Job.withFault_eq_ok.mp hmake)
  rw [hmade, Prod.mk.injEq] at hfound
  obtain ⟨rfl, -⟩ := hfound
  obtain ⟨last, hlast⟩ := hlike.await hawait
  have hmake' : (Job.ensureDirectories lock.file.parent).withFault LockFault.disk v =
      .ok () { v with disk := made' } :=
    Job.withFault_eq_ok.mpr (Job.ensureDirectories_eq_ok.mpr ⟨made', hmade', rfl⟩)
  rw [Job.bind_of_ok hmake', Job.bind_of_ok hlast]
  exact ⟨_, _, rfl⟩

end ViewGen.Lock
