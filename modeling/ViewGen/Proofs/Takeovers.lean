import ViewGen.Proofs.Exclusion
import ViewGen.Proofs.ManifestLoads
import ViewGen.Proofs.Nuls

/-!
# Taking over locks

A lock that is not waited for is decided by one judgment of what stands at the place of its file: a file
that names a process of this machine which is gone, or has named none for some time, is taken over, and any
other is left alone.  Waiting is a loop that tries again at once whenever it has removed a stale file; it
is never stuck in that, since the file it has removed is not there the next time.
-/

namespace ViewGen

/-! ## Paths into a directory -/

/-- Past a directory a walk goes one name further. -/
theorem Disk.walk_past {disk : Disk} {at' above : Location} {names : List String}
    (hw : disk.walk at' names = .ok above) (hd : disk.IsDirectoryAt above) (name : String) :
    disk.walk at' (names ++ [name]) = step above name := by
  -- On the names that lead to the directory.
  induction names generalizing at' with
  | nil =>
    cases hw
    obtain ⟨changed, hn⟩ := hd
    rw [List.nil_append, walk, hn]
    cases step above name <;> rfl
  | cons first rest ih =>
    obtain ⟨⟨changed, hn⟩, next, hstep, hrest⟩ := walk_cons.mp hw
    rw [List.cons_append, walk, hn]
    simp only [hstep]
    exact ih hrest

namespace Path

/-- Whether the system takes a path: it can be asked for, and its last name is not too long. -/
def Fits (path : Path) : Prop :=
  path.Askable ∧ ∀ name ∈ path.parts.getLast?, name.utf8ByteSize ≤ Disk.nameLimit

variable {disk : Disk} {current : Location} {anchor : Anchor} {names : List String} {name : String}

/-- A name in a directory leads somewhere unless it is too long, or the path with it is. -/
theorem locate_of_directory (hname : name ≠ "..")
    (hnul : (⟨anchor, names ++ [name]⟩ : Path).hasNul = false)
    (hd : disk.DirectoryAlong current ⟨anchor, names⟩) :
    (Fits ⟨anchor, names ++ [name]⟩ → Leads ⟨anchor, names ++ [name]⟩ disk current) ∧
      (¬ Fits ⟨anchor, names ++ [name]⟩ →
        (⟨anchor, names ++ [name]⟩ : Path).locate disk current = .error (.system .nameTooLong)) := by
  have hwalk := Disk.walk_past (locate_eq_ok.mp hd.1).2 hd.2 name
  have hlast : (names ++ [name]).getLast? = some name := List.getLast?_concat
  simp only [Fits, hlast, Option.mem_def, Option.some.injEq, forall_eq']
  constructor
  · rintro ⟨haskable, hshort⟩
    rw [Disk.step, if_neg hname, if_neg (Nat.not_lt.mpr hshort)] at hwalk
    exact leads_of_locate (locate_eq_ok.mpr ⟨haskable, hwalk⟩)
  · intro hfits
    rw [locate, if_neg (by simp [hnul])]
    split
    · rfl
    · rename_i hsize
      have hlong : Disk.nameLimit < name.utf8ByteSize :=
        Nat.lt_of_not_le fun hshort => hfits ⟨⟨hnul, Nat.le_of_not_lt hsize⟩, hshort⟩
      rw [Disk.step, if_neg hname, if_pos hlong] at hwalk
      have horigin : (⟨anchor, names ++ [name]⟩ : Path).origin current =
          (⟨anchor, names⟩ : Path).origin current := rfl
      simp only [horigin, hwalk]

end Path

namespace Lock

variable {lock : Lock} {w later : World} {machine : Machine} {limit : Json.DepthLimit}
  {now changed : Moment} {content : ByteArray} {members : List (Units × Json)} {failure fault : LockFault}

/-! ## What a lock file tells -/

namespace Owner

/-- The bytes of a file are an object, as JSON in UTF-8 that is not too deep to read. -/
def Tells (limit : Json.DepthLimit) (content : ByteArray) (members : List (Units × Json)) : Prop :=
  ∃ text : String, content = text.toUTF8 ∧ Json.parse limit text = .ok (.object members)

/-- The members of an object give the number of a process.  Truth values count as numbers. -/
def NamesProcess (members : List (Units × Json)) (id : Int) : Prop :=
  (Json.object members).member? "pid" = some (.integer id) ∨
    ∃ b, (Json.object members).member? "pid" = some (.bool b) ∧ id = if b then 1 else 0

theorem processId?_eq_some {id : Int} : processId? members = some id ↔ NamesProcess members id := by
  simp only [processId?, NamesProcess, Json.member?]
  cases Json.lookup (.ofString "pid") members with
  | none => simp
  | some value => cases value <;> simp [eq_comm]

theorem isOn_iff {hostName : String} :
    isOn members hostName = true ↔
      (Json.object members).member? "hostname" = some (.text (.ofString hostName)) := by
  simp only [isOn, Json.member?]
  cases Json.lookup (.ofString "hostname") members with
  | none => simp
  | some value => cases value <;> simp

theorem ofText_eq_record {text : String} :
    ofText limit text = .ok (.record members) ↔ Json.parse limit text = .ok (.object members) := by
  unfold ofText
  cases Json.parse limit text with
  | error cause => cases cause <;> simp
  | ok value => cases value <;> simp

theorem ofText_eq_error {text : String} {cause : Json.Fault} (h : ofText limit text = .error cause) :
    Json.NestsTooDeeply limit text := by
  rw [← Json.parse_eq_tooDeep]
  unfold ofText at h
  split at h
  · cases h
  · cases h
  · cases h
  · assumption

theorem ofNode_eq_record :
    ofNode limit (.file content changed) = .ok (.record members) ↔ Tells limit content members := by
  constructor
  · intro h
    unfold ofNode at h
    simp only at h
    split at h
    · cases h
    · rename_i text hdecode
      rw [ofText_withLineFeeds] at h
      exact ⟨text, Utf8.decode_eq_ok.mp hdecode, ofText_eq_record.mp h⟩
  · rintro ⟨text, rfl, hparse⟩
    simp only [ofNode, Utf8.decode_toUTF8, ofText_withLineFeeds]
    exact ofText_eq_record.mpr hparse

theorem tells_unique {others : List (Units × Json)} (h : Tells limit content members)
    (h' : Tells limit content others) : members = others := by
  have hnode : ofNode limit (.file content 0) = .ok (.record members) := ofNode_eq_record.mpr h
  rw [ofNode_eq_record.mpr h'] at hnode
  cases hnode
  rfl

theorem ofNode_eq_error {cause : Json.Fault}
    (h : ofNode limit (.file content changed) = .error cause) :
    ∃ text : String, content = text.toUTF8 ∧ Json.NestsTooDeeply limit text := by
  unfold ofNode at h
  simp only at h
  split at h
  · cases h
  · rename_i text hdecode
    rw [ofText_withLineFeeds] at h
    exact ⟨text, Utf8.decode_eq_ok.mp hdecode, ofText_eq_error h⟩

end Owner

/-! ## What is stale -/

/-- A file is stale if it names a process of the machine that is gone, or if it is no object and was last
written some time ago. -/
inductive Stale (machine : Machine) (now : Moment) : Node → Prop
  | departed {content : ByteArray} {changed : Moment} {members : List (Units × Json)} {id : Int} :
    Owner.Tells machine.depths.owner content members →
    (Json.object members).member? "hostname" = some (.text (.ofString machine.hostName)) →
    Owner.NamesProcess members id → id ∉ machine.alive →
    Stale machine now (.file content changed)
  | illegible {content : ByteArray} {changed : Moment} :
    (∀ members, ¬ Owner.Tells machine.depths.owner content members) → changed + grace ≤ now →
    Stale machine now (.file content changed)

/-- Nothing stands there but what is stale. -/
def Vacant (machine : Machine) (now : Moment) (standing : Option Node) : Prop :=
  ∀ node ∈ standing, Stale machine now node

/-- What can be judged at the place of a lock file: nothing, or a file that does not nest too deeply and
names no process but one that can be asked for. -/
inductive Judgeable (limit : Json.DepthLimit) : Option Node → Prop
  | absent : Judgeable limit none
  | file {content : ByteArray} {changed : Moment} :
    (∀ text : String, content = text.toUTF8 → ¬ Json.NestsTooDeeply limit text) →
    (∀ members id, Owner.Tells limit content members → Owner.NamesProcess members id →
      fitsProcessId id = true) →
    Judgeable limit (some (.file content changed))

/-- A file that names no owner is stale by its age. -/
theorem stale_of_unknown (h : ∀ members, ¬ Owner.Tells machine.depths.owner content members) :
    Stale machine now (.file content changed) ↔ changed + grace ≤ now := by
  refine ⟨fun hstale => ?_, .illegible h⟩
  cases hstale with
  | departed htells => exact absurd htells (h _)
  | illegible _ hold => exact hold

/-- A file that is an object is stale by what it names. -/
theorem stale_of_tells (h : Owner.Tells machine.depths.owner content members) :
    Stale machine now (.file content changed) ↔ Owner.isOn members machine.hostName = true ∧
      ∃ id, Owner.processId? members = some id ∧ id ∉ machine.alive := by
  simp only [Owner.isOn_iff, Owner.processId?_eq_some]
  constructor
  · intro hstale
    cases hstale with
    | departed htells hhost hid hgone =>
      obtain rfl := Owner.tells_unique h htells
      exact ⟨hhost, _, hid, hgone⟩
    | illegible hnone _ => exact absurd h (hnone members)
  · rintro ⟨hhost, id, hid, hgone⟩
    exact .departed h hhost hid hgone

/-- What is judged of the owner that a file names is whether the file is stale. -/
theorem isStale?_eq {owner : Owner}
    (howner : Owner.ofNode machine.depths.owner (.file content changed) = .ok owner)
    (hfits : ∀ members id, Owner.Tells machine.depths.owner content members →
      Owner.NamesProcess members id → fitsProcessId id = true) :
    ∃ answer, isStale? machine now changed owner = some answer ∧
      (answer = true ↔ Stale machine now (.file content changed)) := by
  cases owner with
  | unknown =>
    have hnone : ∀ members, ¬ Owner.Tells machine.depths.owner content members := by
      intro members htells
      rw [Owner.ofNode_eq_record.mpr htells] at howner
      cases howner
    refine ⟨_, rfl, ?_⟩
    rw [stale_of_unknown hnone, decide_eq_true_eq]
  | record members =>
    have htells := Owner.ofNode_eq_record.mp howner
    rw [stale_of_tells htells, isStale?]
    cases hhost : Owner.isOn members machine.hostName with
    | false => exact ⟨false, rfl, by simp⟩
    | true =>
      cases hid : Owner.processId? members with
      | none => exact ⟨false, rfl, by simp⟩
      | some id =>
        have hid' := hfits members id htells (Owner.processId?_eq_some.mp hid)
        exact ⟨!machine.alive.contains id, by simp [hid'], by simp⟩

/-- A file that holds no JSON can be judged. -/
theorem judgeable_of_malformed {text : String} (h : Json.parse limit text = .error .malformed)
    (changed : Moment) : Judgeable limit (some (.file text.toUTF8 changed)) := by
  refine .file ?_ ?_
  · intro other htext hdeep
    rw [← String.toByteArray_inj.mp htext, ← Json.parse_eq_tooDeep, h] at hdeep
    cases hdeep
  · rintro members id ⟨other, htext, hparse⟩ -
    rw [← String.toByteArray_inj.mp htext, h] at hparse
    cases hparse

/-- What can be judged is taken over if nothing but stale things stand there, and left alone if not. -/
theorem verdict_of_judgeable (machine : Machine) (now : Moment) {standing : Option Node}
    (h : Judgeable machine.depths.owner standing) :
    ∃ answer, verdict machine now standing = .ok answer ∧
      (answer = true ↔ Vacant machine now standing) := by
  cases h with
  | absent => exact ⟨true, rfl, by simp [Vacant]⟩
  | file hdepth hfits =>
    rename_i content changed
    cases howner : Owner.ofNode machine.depths.owner (.file content changed) with
    | error cause =>
      obtain ⟨text, htext, hdeep⟩ := Owner.ofNode_eq_error howner
      exact absurd hdeep (hdepth text htext)
    | ok owner =>
      have hjudged : ∃ answer, isStale? machine now changed owner = some answer ∧
          (answer = true ↔ Stale machine now (.file content changed)) := isStale?_eq howner hfits
      obtain ⟨answer, hanswer, hstale⟩ := hjudged
      refine ⟨answer, ?_, ?_⟩
      · simp only [verdict, howner, Node.changed, hanswer]
        cases answer <;> rfl
      · rw [hstale]
        simp [Vacant]

/-! ## Waiting as a loop -/

/-- A look at a lock file that is in the way: whether to try again at once, because nothing is there any
more or because what was stale has been removed. -/
def look (lock : Lock) : Job LockFault Bool := fun w =>
  match w.disk.stat w.current lock.file with
  | .error .embeddedNul => .error (.disk .embeddedNul) w
  | .error (.system _) => .ok true w
  | .ok _ => (do
    if ← lock.stale then
      -- Nothing else acts between the judgment and the removal, so what was judged is still there.
      Job.note .info ("Removing stale lock " ++ lock.file.render)
      lock.remove
      pure true
    else pure false : Job LockFault Bool) w

/-- Waiting for the lock as one loop, which tries to create the lock file at the beginning of each turn.
The time counts only in a turn that leaves the file to its owner.  Nothing is returned if the loop would
go on after so many turns. -/
def loop (lock : Lock) (failure : LockFault) :
    Nat → Nat → World → Option (EStateM.Result LockFault World Unit)
  | 0, _, _ => none
  | turns + 1, polls, w =>
    match lock.create w with
    | .error fault later => some (.error fault later)
    | .ok true later => some (.ok () later)
    | .ok false later =>
      match lock.look later with
      | .error fault last => some (.error fault last)
      | .ok true last => lock.loop failure turns polls last
      | .ok false last =>
        match polls with
        | 0 => some (.error failure last)
        | polls + 1 =>
          lock.loop failure turns polls { last with now := last.now + Timeout.pollInterval }

theorem look_of_some {node : Node} (hl : lock.file.Leads w.disk w.current)
    (hn : w.disk.node? (lock.place w.current) = some node) :
    lock.look w = (do
      if ← lock.stale then
        Job.note .info ("Removing stale lock " ++ lock.file.render)
        lock.remove
        pure true
      else pure false : Job LockFault Bool) w := by
  have hs := Disk.stat_eq_ok.mpr ⟨hl, hn⟩
  simp only [look, hs]

/-- A file in the way is there to be looked at. -/
theorem exists_of_create_false (h : lock.create w = .ok false later) :
    later = w ∧ lock.file.Leads w.disk w.current ∧
      ∃ node, w.disk.node? (lock.place w.current) = some node := by
  obtain ⟨rfl, hl⟩ := leads_of_create_false h
  refine ⟨rfl, hl, Option.ne_none_iff_exists'.mp fun hn => ?_⟩
  rw [create_of_free hl hn] at h
  cases h

/-- What a turn does that finds a file in the way: an attempt fails at the look, ends in the next turn with
the lock file created, or leaves the file to its owner. -/
theorem loop_attempt (hcreate : lock.create w = .ok false w) (failure : LockFault)
    (turns polls : Nat) :
    match lock.look w with
    | .error fault last => lock.attempt w = .error fault last
    | .ok true last => ∃ taken, lock.attempt w = .ok true taken ∧
      lock.loop failure (turns + 1) polls last = some (.ok () taken)
    | .ok false last => lock.attempt w = .ok false last := by
  obtain ⟨-, hl, node, hn⟩ := exists_of_create_false hcreate
  rw [look_of_some hl hn, attempt_of_create_false hcreate]
  cases hstale : lock.stale w with
  | error fault last =>
    rw [Job.bind_of_error hstale, Job.bind_of_error hstale]
  | ok answer last =>
    rw [stale_world hstale] at hstale
    rw [Job.bind_of_ok hstale, Job.bind_of_ok hstale]
    cases answer with
    | false => rfl
    | true =>
      -- The stale lock is noted before it is removed, which only the log shows.
      let noted : World :=
        { w with log := w.log ++ [⟨.info, "Removing stale lock " ++ lock.file.render⟩] }
      have hnote : ∀ rest : Job LockFault Bool,
          (Job.note .info ("Removing stale lock " ++ lock.file.render) >>= fun _ => rest) w =
            rest noted := fun _ => rfl
      rw [if_pos rfl, if_pos rfl, hnote, hnote]
      cases node with
      | directory changed =>
        have hremove := remove_of_directory (w := noted) hl hn
        rw [Job.bind_of_error hremove, Job.bind_of_error hremove]
      | file content changed =>
        -- The next turn finds the place empty, so it is the last one.
        have hremove := remove_of_file (w := noted) hl hn
        have hagain := create_of_erased (w := noted) hl hn
        rw [Job.bind_of_ok hremove, Job.bind_of_ok hremove]
        refine ⟨_, hagain, ?_⟩
        simp only [loop]
        rw [hagain]

/-- One attempt takes two turns at most, the second one only if it succeeds there. -/
theorem loop_eq (lock : Lock) (failure : LockFault) (turns polls : Nat) (w : World) :
    lock.loop failure (turns + 2) polls w = match lock.attempt w with
      | .error fault later => some (.error fault later)
      | .ok true later => some (.ok () later)
      | .ok false later =>
        match polls with
        | 0 => some (.error failure later)
        | polls + 1 => lock.loop failure (turns + 1) polls
          { later with now := later.now + Timeout.pollInterval } := by
  rw [loop]
  cases hcreate : lock.create w with
  | error fault later =>
    have hattempt : lock.attempt w = .error fault later := Job.bind_of_error hcreate
    rw [hattempt]
  | ok created later =>
    cases created with
    | true =>
      have hattempt : lock.attempt w = .ok true later := Job.bind_of_ok hcreate
      rw [hattempt]
    | false =>
      obtain ⟨rfl, -⟩ := exists_of_create_false hcreate
      have hturn := lock.loop_attempt hcreate failure turns polls
      cases hlook : lock.look later with
      | error fault last =>
        rw [hlook] at hturn
        simp only [hlook, hturn]
      | ok again last =>
        rw [hlook] at hturn
        cases again with
        | false => simp only [hlook, hturn]
        | true =>
          obtain ⟨taken, hattempt, hloop⟩ := hturn
          simp only [hlook, hattempt, hloop]

/-- Waiting is the loop, which ends after two turns and one more for each poll. -/
theorem loop_eq_attemptFor (lock : Lock) (failure : LockFault) (polls : Nat) (w : World) :
    lock.loop failure (polls + 2) polls w = some (lock.attemptFor failure polls w) := by
  -- Two turns are left for the last attempt, and each one before it uses up a turn and a poll.
  induction polls generalizing w with
  | zero =>
    rw [loop_eq]
    cases hattempt : lock.attempt w with
    | error fault later => rw [attemptFor_of_error hattempt]
    | ok answer later =>
      rw [attemptFor_of_attempt hattempt]
      cases answer <;> rfl
  | succ polls ih =>
    rw [loop_eq]
    cases hattempt : lock.attempt w with
    | error fault later => rw [attemptFor_of_error hattempt]
    | ok answer later =>
      rw [attemptFor_of_attempt hattempt]
      cases answer with
      | true => rfl
      | false => exact ih _

/-- Acquiring the lock with so many attempts at most to create its file. -/
def acquireWithin (lock : Lock) (turns : Nat) (w : World) :
    Option (EStateM.Result LockFault World Lock) :=
  match (Job.ensureDirectories lock.file.parent).withFault LockFault.disk w with
  | .error fault made => some (.error fault made)
  | .ok _ made =>
    match lock.loop lock.lost turns (lock.patience made) made with
    | none => none
    | some (.error fault later) => some (.error fault later)
    | some (.ok _ later) => some ((do
      Job.note .debug ("Acquired lock " ++ lock.file.render)
      pure { lock with acquired := true } : Job LockFault Lock) later)

/-- Acquiring always ends, after two attempts to create the lock file and one more for each poll. -/
theorem acquireWithin_eq (hfree : lock.acquired = false) {made : World}
    (hmake : (Job.ensureDirectories lock.file.parent).withFault LockFault.disk w = .ok () made) :
    lock.acquireWithin (lock.patience made + 2) w = some (lock.acquire w) := by
  rw [acquire_eq hfree, Job.bind_of_ok hmake]
  simp only [acquireWithin, hmake, loop_eq_attemptFor]
  rw [← await_eq]
  cases hawait : lock.await made with
  | error fault later => rw [Job.bind_of_error hawait]
  | ok u later => rw [Job.bind_of_ok hawait]

/-! ## Acquiring without waiting -/

theorem file?_of_create (h : lock.create w = .ok true later) :
    later.disk.file? (lock.place w.current) = some (Owner.content w.machine w.now).toUTF8 := by
  obtain ⟨-, hn, rfl⟩ := create_eq_true.mp h
  exact Disk.file?_put_self _ _ _
    (Disk.ne_nil_of_not_isDirectoryAt (Disk.not_isDirectoryAt_of_none hn))

/-- A successful attempt leaves a file that tells the process that has made it. -/
theorem file?_of_attempt (h : lock.attempt w = .ok true later) :
    later.disk.file? (lock.place w.current) = some (Owner.content w.machine w.now).toUTF8 := by
  obtain ⟨created, middle, hcreate, hrest⟩ := Job.bind_eq_ok.mp h
  cases created with
  | true =>
    cases hrest
    exact file?_of_create hcreate
  | false =>
    obtain ⟨rfl, -⟩ := leads_of_create_false hcreate
    rw [if_neg (by decide)] at hrest
    obtain ⟨answer, judged, hstale, hrest⟩ := Job.bind_eq_ok.mp hrest
    cases answer with
    | false => cases hrest
    | true =>
      -- Neither the note on the stale lock nor its removal changes the machine or the moment.
      rw [if_pos rfl, stale_world hstale] at hrest
      obtain ⟨_, noted, hnote, hrest⟩ := Job.bind_eq_ok.mp hrest
      cases hnote
      obtain ⟨_, removed, hremove, hagain⟩ := Job.bind_eq_ok.mp hrest
      obtain ⟨erased, -, rfl⟩ := Job.change_eq_ok.mp (Job.withFault_eq_ok.mp hremove)
      have hfile := file?_of_create hagain
      exact hfile

/-- The lock file tells the process that runs on the machine, with a time and nothing more, and nothing
else has changed on the disk. -/
structure Owned (lock : Lock) (w later : World) : Prop where
  current : later.current = w.current
  file : later.disk.file? (lock.place w.current) = some (Owner.content w.machine w.now).toUTF8
  tells : ∃ time, ∀ limit,
    Owner.Tells limit (Owner.content w.machine w.now).toUTF8 (Owner.members w.machine time)
  outside : w.disk.SameOutside {lock.place w.current} later.disk

/-- How acquiring a lock ends that is not waited for: it is acquired if nothing stands at its place but
what is stale, and else times out and changes nothing; unless its path is not one that the system takes.
A fault brings no lock with it, so the one that was asked for stays free. -/
inductive Ending (lock : Lock) (w : World) : EStateM.Result LockFault World Lock → Prop
  | acquired {later : World} : lock.file.Fits →
    Vacant w.machine w.now (w.disk.node? (lock.place w.current)) → lock.Owned w later →
    Ending lock w (.ok { lock with acquired := true } later)
  | contended : lock.file.Fits →
    ¬ Vacant w.machine w.now (w.disk.node? (lock.place w.current)) →
    Ending lock w (.error (.timeout lock.file lock.timeout) w)
  | tooLong : lock.file.hasNul = false → ¬ lock.file.Fits →
    Ending lock w (.error (.cannotCreate lock.file .nameTooLong) w)
  | embeddedNul : lock.file.hasNul = true → Ending lock w (.error (.disk .embeddedNul) w)

/-- What comes of the only attempt. -/
theorem acquire_of_attempt (hfree : lock.acquired = false) (hpolls : lock.timeout.polls? = some 0)
    (hd : w.disk.DirectoryAlong w.current lock.file.parent) {answer : Bool}
    (hattempt : lock.attempt w = .ok answer later) :
    match answer with
    | true => ∃ log, lock.acquire w = .ok { lock with acquired := true } { later with log }
    | false => lock.acquire w = .error (.timeout lock.file lock.timeout) later := by
  have hawait : lock.await w = if answer then .ok () later
      else .error (.timeout lock.file lock.timeout) later := by
    rw [await_eq, attemptFor_of_attempt hattempt]
    simp only [lost, patience, hpolls]
  rw [acquire_of_directory hfree hd]
  cases answer with
  | true => exact ⟨_, Job.bind_of_ok hawait⟩
  | false => exact Job.bind_of_error hawait

/-- Where the path of the lock file leads somewhere, what stands there decides. -/
theorem ending_of_leads (hfree : lock.acquired = false) (hpolls : lock.timeout.polls? = some 0)
    (hruns : fitsProcessId w.machine.processId = true)
    (hd : w.disk.DirectoryAlong w.current lock.file.parent)
    (hstanding : Judgeable w.machine.depths.owner (w.disk.node? (lock.place w.current)))
    (hfits : lock.file.Fits) (hl : lock.file.Leads w.disk w.current) : lock.Ending w (lock.acquire w) := by
  have hspec := attempt_spec hl
  obtain ⟨answer, hverdict, hvacant⟩ := verdict_of_judgeable w.machine w.now hstanding
  rw [hverdict] at hspec
  cases answer with
  | true =>
    obtain ⟨later, hattempt, htaken⟩ := hspec
    obtain ⟨log, hacquire⟩ := acquire_of_attempt hfree hpolls hd hattempt
    obtain ⟨time, hparse⟩ := Owner.parse_content w.now hruns
    have hfile := file?_of_attempt hattempt
    rw [hacquire]
    exact .acquired hfits (hvacant.mp rfl)
      { current := htaken.current
        file := hfile
        tells := ⟨time, fun limit => ⟨_, rfl, hparse limit⟩⟩
        outside := htaken.outside }
  | false =>
    have hacquire := acquire_of_attempt hfree hpolls hd hspec
    rw [hacquire]
    exact .contended hfits fun h => Bool.false_ne_true (hvacant.mpr h)

/-- Acquiring a lock in a directory that is there, without waiting, ends after two attempts at most to
create its file, and one judgment decides how. -/
theorem acquire_ends {directory : Path} {file : String} {timeout : Timeout}
    (hlock : lock = ofManifest directory file timeout) (hpolls : timeout.polls? = some 0)
    (hruns : fitsProcessId w.machine.processId = true)
    (hd : w.disk.DirectoryAlong w.current lock.file.parent)
    (hstanding : Judgeable w.machine.depths.owner (w.disk.node? (lock.place w.current))) :
    lock.acquireWithin 2 w = some (lock.acquire w) ∧ lock.Ending w (lock.acquire w) := by
  have hfree : lock.acquired = false := by rw [hlock]; rfl
  have hnone : lock.timeout.polls? = some 0 := by rw [hlock]; exact hpolls
  constructor
  · have hmake : (Job.ensureDirectories lock.file.parent).withFault LockFault.disk w = .ok () w :=
      Job.withFault_eq_ok.mpr (Job.ensureDirectories_of_directory hd)
    have hturns := acquireWithin_eq hfree hmake
    rw [patience, hnone] at hturns
    exact hturns
  · obtain ⟨base, last, hfile⟩ := exists_ofManifest_file directory file timeout
    rw [← hlock] at hfile
    cases hnul : lock.file.hasNul with
    | true =>
      rw [acquire_of_refused hfree hd ((Path.locate_eq_embeddedNul _ _).mpr hnul)]
      exact .embeddedNul hnul
    | false =>
      have hparent : lock.file.parent = ⟨base.anchor, base.parts⟩ := by
        rw [hfile, Path.parent, List.dropLast_concat]
      have hlocate := Path.locate_of_directory (ending_ne last (by decide)) (hfile ▸ hnul)
        (hparent ▸ hd)
      rw [← hfile] at hlocate
      by_cases hfits : lock.file.Fits
      · exact ending_of_leads hfree hnone hruns hd hstanding hfits (hlocate.1 hfits)
      · rw [acquire_of_refused hfree hd (hlocate.2 hfits)]
        exact .tooLong hnul hfits

/-- The lock of a manifest in the directory `d`, which is not waited for. -/
def unwaited (file : String) : Lock :=
  ofManifest ⟨.relative, ["d"]⟩ file (.whole 0)

/-- A lock file in the directory `d` that its owner left empty five seconds ago. -/
def abandoned : World :=
  { World.bare with
    disk := ⟨[(["d"], .directory 0), (["d", "m.lock"], .file "".toUTF8 0)]⟩
    now := 5000 }

theorem acquire_ends_abandoned :
    (Timeout.whole 0).polls? = some 0 ∧ fitsProcessId abandoned.machine.processId = true ∧
    abandoned.disk.DirectoryAlong abandoned.current (unwaited "m").file.parent ∧
    Judgeable abandoned.machine.depths.owner
      (abandoned.disk.node? ((unwaited "m").place abandoned.current)) ∧
    (unwaited "m").acquireWithin 2 abandoned = some ((unwaited "m").acquire abandoned) ∧
    (unwaited "m").Ending abandoned ((unwaited "m").acquire abandoned) := by
  have hpolls : (Timeout.whole 0).polls? = some 0 := by decide
  have hfits : fitsProcessId abandoned.machine.processId = true := by decide
  have hd : abandoned.disk.DirectoryAlong abandoned.current (unwaited "m").file.parent :=
    ⟨rfl, 0, rfl⟩
  have hstanding : Judgeable abandoned.machine.depths.owner
      (abandoned.disk.node? ((unwaited "m").place abandoned.current)) :=
    judgeable_of_malformed rfl 0
  exact ⟨hpolls, hfits, hd, hstanding, acquire_ends rfl hpolls hfits hd hstanding⟩

/-- A file name that is not too long itself, but is so with the ending of lock files. -/
def longName : String := String.ofList (List.replicate 251 'f')

theorem not_mem_longName {c : Char} (hc : c ≠ 'f') : c ∉ longName.toList := by
  unfold longName
  rw [String.toList_ofList, List.mem_replicate]
  exact fun h => hc h.2

/-- A lock is not acquired whose file would have too long a name, though none stands there. -/
theorem acquire_longName :
    let w := { World.bare with disk := ⟨[(["d"], .directory 0)]⟩ }
    w.disk.DirectoryAlong w.current (unwaited longName).file.parent ∧
    w.disk.node? ((unwaited longName).place w.current) = none ∧
    (unwaited longName).acquire w = .error (.cannotCreate (unwaited longName).file .nameTooLong) w := by
  intro w
  have hfile : (unwaited longName).file = ⟨.relative, ["d"] ++ [longName ++ ".lock"]⟩ :=
    ofManifest_file ⟨.relative, ["d"]⟩ (not_mem_longName (by decide)) (.whole 0)
  have hdirectory : w.disk.DirectoryAlong w.current ⟨.relative, ["d"]⟩ := ⟨rfl, 0, rfl⟩
  have hd : w.disk.DirectoryAlong w.current (unwaited longName).file.parent := by
    rw [hfile, Path.parent, List.dropLast_concat]
    exact hdirectory
  refine ⟨hd, ?_, ?_⟩
  · rw [place, hfile, Path.resolve_concat _ _ (ending_ne _ (by decide))]
    rfl
  · have hnul : (⟨.relative, ["d"] ++ [longName ++ ".lock"]⟩ : Path).hasNul = false := by
      have hlast : '\x00' ∉ (longName ++ ".lock").toList := by
        rw [String.toList_append, List.mem_append, not_or]
        exact ⟨not_mem_longName (by decide), by decide⟩
      rw [Path.hasNul_eq_false, List.forall_mem_append]
      exact ⟨by decide, by simpa using hlast⟩
    have hfits : ¬ Path.Fits ⟨.relative, ["d"] ++ [longName ++ ".lock"]⟩ := by
      rintro ⟨-, hshort⟩
      have hsize := hshort _ List.getLast?_concat
      rw [String.utf8ByteSize_append] at hsize
      exact absurd hsize (by decide +kernel)
    have hlocate := (Path.locate_of_directory (ending_ne _ (by decide)) hnul hdirectory).2 hfits
    rw [← hfile] at hlocate
    exact acquire_of_refused rfl hd hlocate

end Lock

end ViewGen
