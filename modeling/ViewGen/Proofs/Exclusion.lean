import Mathlib.Logic.ExistsUnique
import Mathlib.Logic.Function.Basic
import ViewGen.Proofs.Waiting

/-!
# Locks of one process

A process uses several locks in turn, some of them with one lock file.  Whatever it does with them, of the
locks with one place at most one is acquired, and the lock file is there as long as one is.  What keeps the
others out is the lock file itself: it names a process that is alive, since it is the one that asks.
-/

namespace ViewGen

/-! ## Paths to one place -/

theorem Disk.exists_step {at' next : Location} {name : String} (h : step at' name = .ok next)
    (other : Location) : ∃ next', step other name = .ok next' := by
  unfold step at h ⊢
  split at h
  · exact ⟨_, if_pos ‹_›⟩
  · rw [if_neg ‹_›]
    split at h
    · cases h
    · exact ⟨_, if_neg ‹_›⟩

/-- A path that names the same thing in another directory leads there too, unless it is too long. -/
theorem Path.Leads.beside {disk : Disk} {current : Location} {anchor anchor' : Anchor}
    {names names' : List String} {name : String} (h : Leads ⟨anchor', names' ++ [name]⟩ disk current)
    (hd : disk.DirectoryAlong current ⟨anchor, names⟩) :
    (⟨anchor, names ++ [name]⟩ : Path).locate disk current =
      if Disk.pathLimit < (⟨anchor, names ++ [name]⟩ : Path).render.utf8ByteSize then
        .error (.system .nameTooLong)
      else .ok ((⟨anchor, names ++ [name]⟩ : Path).resolve current) := by
  obtain ⟨⟨hname, -⟩, hthere⟩ := locate_eq_ok.mp h
  obtain ⟨⟨hnames, -⟩, hhere⟩ := locate_eq_ok.mp hd.1
  have hnul : (⟨anchor, names ++ [name]⟩ : Path).hasNul = false := by
    unfold hasNul at hname hnames ⊢
    rw [List.any_append, Bool.or_eq_false_iff] at hname ⊢
    exact ⟨hnames, hname.2⟩
  split
  · rename_i hlong
    rw [locate, if_neg (by simp [hnul]), if_pos hlong]
  · rename_i hshort
    obtain ⟨above, -, -, hstep⟩ := Disk.walk_concat.mp hthere
    obtain ⟨next, hnext⟩ := Disk.exists_step hstep ((⟨anchor, names⟩ : Path).resolve current)
    have hlocate := locate_eq_ok.mpr
      ⟨⟨hnul, Nat.le_of_not_lt hshort⟩, Disk.walk_concat.mpr ⟨_, hhere, hd.2, hnext⟩⟩
    rw [hlocate, locate_eq_resolve hlocate]

/-! ## Locks with one lock file -/

namespace Lock

variable {lock other : Lock} {w : World}

/-- A lock whose file has no place cannot be acquired, and nothing changes. -/
theorem acquire_of_refused {cause : DiskFault} (hfree : lock.acquired = false)
    (hd : w.disk.DirectoryAlong w.current lock.file.parent)
    (hl : lock.file.locate w.disk w.current = .error cause) :
    lock.acquire w = .error (lock.refusal cause) w := by
  have hattempt : lock.attempt w = .error (lock.refusal cause) w :=
    Job.bind_of_error (create_of_locate hl)
  rw [acquire_of_directory hfree hd]
  refine Job.bind_of_error ?_
  rw [await_eq]
  exact attemptFor_of_error hattempt

/-- What acquiring a lock fails with while another one with the same lock file is acquired. -/
def contention (lock : Lock) : LockFault :=
  if Disk.pathLimit < lock.file.render.utf8ByteSize then .cannotCreate lock.file .nameTooLong
  else .timeout lock.file lock.timeout

/-- The lock file is named as those of manifests are. -/
def Named (lock : Lock) : Prop :=
  ∃ (base : Path) (last : String),
    lock.file = ⟨base.anchor, base.parts ++ [last ++ ".lock"]⟩

theorem ending_ne {other : String} (last : String) (hshort : other.length < 5) :
    last ++ ".lock" ≠ other := by
  intro he
  have hlength := congrArg String.length he
  have hlock : ".lock".length = 5 := by decide
  rw [String.length_append] at hlength
  omega

theorem ofManifest_file (directory : Path) {file : String} (hslash : '/' ∉ file.toList)
    (timeout : Timeout) : (ofManifest directory file timeout).file =
      ⟨directory.anchor, directory.parts ++ [file ++ ".lock"]⟩ := by
  have hpart : Path.IsPart (file ++ ".lock") := by
    refine ⟨ending_ne file (by decide), ending_ne file (by decide), ?_⟩
    rw [String.toList_append, List.mem_append, not_or]
    exact ⟨hslash, by decide⟩
  exact Path.joinName_of_isPart hpart

/-- Two lock files with one place have one name, so one is led to as soon as the other is, unless its path
is too long. -/
theorem locate_of_other (hlock : lock.Named) (hother : other.Named)
    (hplace : lock.place w.current = other.place w.current)
    (hd : w.disk.DirectoryAlong w.current lock.file.parent)
    (hl : other.file.Leads w.disk w.current) :
    lock.file.locate w.disk w.current =
      if Disk.pathLimit < lock.file.render.utf8ByteSize then .error (.system .nameTooLong)
      else .ok (lock.place w.current) := by
  obtain ⟨base, last, hfile⟩ := hlock
  obtain ⟨base', last', hfile'⟩ := hother
  unfold place at hplace ⊢
  rw [hfile, hfile', Path.resolve_concat _ _ (ending_ne last (by decide)),
    Path.resolve_concat _ _ (ending_ne last' (by decide))] at hplace
  obtain ⟨-, hlast⟩ := List.append_inj' hplace rfl
  rw [hfile] at hd ⊢
  rw [hfile', ← (List.cons.inj hlast).1] at hl
  rw [Path.parent, List.dropLast_concat] at hd
  exact hl.beside hd

/-- A lock is not acquired while another one with the same lock file is. -/
theorem acquire_of_other {content : ByteArray} {changed : Moment} (hlock : lock.Named)
    (hother : other.Named) (hfree : lock.acquired = false) (hpolls : lock.timeout.polls? ≠ none)
    (hplace : lock.place w.current = other.place w.current)
    (hd : w.disk.DirectoryAlong w.current lock.file.parent)
    (hl : other.file.Leads w.disk w.current)
    (hn : w.disk.node? (other.place w.current) = some (.file content changed))
    (hlive : LiveOwner w.machine content) :
    ∃ now, lock.acquire w = .error lock.contention { w with now } := by
  have hlocate := locate_of_other hlock hother hplace hd hl
  unfold contention
  split at hlocate
  · rw [if_pos ‹_›]
    exact ⟨w.now, acquire_of_refused hfree hd hlocate⟩
  · rw [if_neg ‹_›]
    rw [← hplace] at hn
    have hlost : lock.lost = .timeout lock.file lock.timeout := by
      unfold lost
      cases hnumber : lock.timeout.polls? with
      | none => exact absurd hnumber hpolls
      | some polls => rfl
    rw [← hlost]
    exact ⟨_, acquire_of_liveOwner hfree hd (Path.leads_of_locate hlocate) hn hlive⟩

end Lock

/-! ## Processes -/

/-- The locks of one process as they stand, and the world around it. -/
structure Process (ι : Type) where
  locks : ι → Lock
  world : World

namespace Process

variable {ι : Type} {p q r : Process ι} {i j : ι} {acquired : Bool} {later : World}

/-- Where the lock file of a lock stands. -/
def place (p : Process ι) (i : ι) : Location :=
  (p.locks i).place p.world.current

/-- The same locks, in the same directory on the same machine. -/
structure Continues (p q : Process ι) : Prop where
  file : ∀ i, (q.locks i).file = (p.locks i).file
  timeout : ∀ i, (q.locks i).timeout = (p.locks i).timeout
  machine : q.world.machine = p.world.machine
  current : q.world.current = p.world.current

protected theorem Continues.refl (p : Process ι) : p.Continues p :=
  ⟨fun _ => rfl, fun _ => rfl, rfl, rfl⟩

protected theorem Continues.trans (h : p.Continues q) (h' : q.Continues r) : p.Continues r where
  file i := (h'.file i).trans (h.file i)
  timeout i := (h'.timeout i).trans (h.timeout i)
  machine := h'.machine.trans h.machine
  current := h'.current.trans h.current

theorem Continues.place (h : p.Continues q) (i : ι) : q.place i = p.place i := by
  unfold Process.place Lock.place
  rw [h.file, h.current]

/-- What every operation keeps. -/
structure Orderly (p : Process ι) : Prop where
  runs : p.world.machine.Runs
  named : ∀ i, (p.locks i).Named
  polls : ∀ i, (p.locks i).timeout.polls? ≠ none
  directory : ∀ i, p.world.disk.DirectoryAlong p.world.current (p.locks i).file.parent
  alone : ∀ i j, p.place i = p.place j → (p.locks i).acquired = true →
    (p.locks j).acquired = true → i = j
  leads : ∀ i, (p.locks i).acquired = true → (p.locks i).file.Leads p.world.disk p.world.current
  held : ∀ i, (p.locks i).acquired = true → ∃ moment, p.world.disk.node? (p.place i) =
    some (.file (Lock.Owner.content p.world.machine moment).toUTF8 moment)
  free : ∀ i, (∀ j, p.place j = p.place i → (p.locks j).acquired = false) →
    p.world.disk.node? (p.place i) = none

/-- As long as no lock is acquired or released, the lock files and their directories are all that
counts. -/
theorem Orderly.elsewhere (h : p.Orderly) (hmachine : later.machine = p.world.machine)
    (hcurrent : later.current = p.world.current)
    (hdirectory : ∀ i, later.disk.DirectoryAlong p.world.current (p.locks i).file.parent)
    (hnode : ∀ i, later.disk.node? (p.place i) = p.world.disk.node? (p.place i)) :
    Orderly ⟨p.locks, later⟩ := by
  have hplace (i : ι) : place ⟨p.locks, later⟩ i = p.place i := by
    unfold place
    rw [hcurrent]
  constructor
  case runs => exact hmachine ▸ h.runs
  case named => exact h.named
  case polls => exact h.polls
  case directory => exact fun i => hcurrent ▸ hdirectory i
  case alone =>
    intro i j
    rw [hplace, hplace]
    exact h.alone i j
  case leads =>
    intro i hi
    have hleads := (h.leads i hi).of_parent (hdirectory i)
    rw [← hcurrent] at hleads
    exact hleads
  case held =>
    intro i hi
    rw [hplace, hmachine, hnode]
    exact h.held i hi
  case free =>
    intro i hi
    rw [hplace, hnode]
    refine h.free i fun j hj => hi j ?_
    rw [hplace, hplace]
    exact hj

/-- The locks of a process before any has been acquired.  Each is that of a manifest in a directory that is
there, waits for a limited time, and has no lock file. -/
structure Fresh (p : Process ι) : Prop where
  runs : p.world.machine.Runs
  lock : ∀ i, ∃ directory file timeout, p.locks i = Lock.ofManifest directory file timeout ∧
    '/' ∉ file.toList ∧ timeout.polls? ≠ none ∧
    p.world.disk.DirectoryAlong p.world.current directory
  free : ∀ i, p.world.disk.node? (p.place i) = none

theorem Fresh.orderly (h : p.Fresh) : p.Orderly := by
  -- No lock is acquired yet.
  have hfree (i : ι) : (p.locks i).acquired ≠ true := by
    obtain ⟨directory, file, timeout, hlock, -⟩ := h.lock i
    rw [hlock]
    exact Bool.false_ne_true
  constructor
  case runs => exact h.runs
  case named =>
    intro i
    obtain ⟨directory, file, timeout, hlock, -⟩ := h.lock i
    rw [hlock]
    exact Lock.exists_ofManifest_file directory file timeout
  case polls =>
    intro i
    obtain ⟨directory, file, timeout, hlock, -, hpolls, -⟩ := h.lock i
    rw [hlock]
    exact hpolls
  case directory =>
    intro i
    obtain ⟨directory, file, timeout, hlock, hslash, -, hdirectory⟩ := h.lock i
    rw [hlock, Lock.ofManifest_file directory hslash, Path.parent, List.dropLast_concat]
    exact hdirectory
  case alone => exact fun i _ _ hi => absurd hi (hfree i)
  case leads => exact fun i hi => absurd hi (hfree i)
  case held => exact fun i hi => absurd hi (hfree i)
  case free => exact fun i _ => h.free i

section

variable [DecidableEq ι]

/-- Does something to one lock, which stays as it is if that fails. -/
def apply (operation : Lock → Job LockFault Lock) (i : ι) (p : Process ι) :
    Process ι × Option LockFault :=
  match operation (p.locks i) p.world with
  | .ok lock world => (⟨Function.update p.locks i lock, world⟩, none)
  | .error fault world => (⟨p.locks, world⟩, some fault)

theorem acquire_of_acquired (h : (p.locks i).acquired = true) : p.apply Lock.acquire i = (p, none) := by
  have hsame : (p.locks i).acquire p.world = .ok (p.locks i) p.world := by
    unfold Lock.acquire
    rw [if_pos h]
    rfl
  unfold apply
  rw [hsame]
  simp only [Function.update_eq_self]

theorem release_of_free (h : (p.locks i).acquired = false) : p.apply Lock.release i = (p, none) := by
  have hsame : (p.locks i).release p.world = .ok (p.locks i) p.world := by
    unfold Lock.release
    rw [if_neg (by simp [h])]
    rfl
  unfold apply
  rw [hsame]
  simp only [Function.update_eq_self]

theorem Orderly.contended (h : p.Orderly) (hplace : p.place i = p.place j)
    (hfree : (p.locks i).acquired = false) (hj : (p.locks j).acquired = true) :
    ∃ now, p.apply Lock.acquire i =
      (⟨p.locks, { p.world with now }⟩, some (p.locks i).contention) := by
  obtain ⟨moment, hn⟩ := h.held j hj
  obtain ⟨now, hacquire⟩ := Lock.acquire_of_other (h.named i) (h.named j) hfree (h.polls i) hplace
    (h.directory i) (h.leads j hj) hn (Lock.liveOwner_content h.runs moment)
  refine ⟨now, ?_⟩
  unfold apply
  rw [hacquire]

/-! ### One lock acquired or released -/

/-- The process with one lock acquired or released, in the world after it. -/
def marked (p : Process ι) (i : ι) (acquired : Bool) (later : World) : Process ι :=
  ⟨Function.update p.locks i { p.locks i with acquired }, later⟩

theorem marked_self : (p.marked i acquired later).locks i = { p.locks i with acquired } :=
  Function.update_self ..

theorem marked_of_ne (hj : j ≠ i) : (p.marked i acquired later).locks j = p.locks j :=
  Function.update_of_ne hj ..

theorem acquired_marked_self : ((p.marked i acquired later).locks i).acquired = acquired :=
  congrArg Lock.acquired marked_self

theorem acquired_marked_of_ne (hj : j ≠ i) :
    ((p.marked i acquired later).locks j).acquired = (p.locks j).acquired :=
  congrArg Lock.acquired (marked_of_ne hj)

theorem continues_marked (hmachine : later.machine = p.world.machine)
    (hcurrent : later.current = p.world.current) : p.Continues (p.marked i acquired later) := by
  refine ⟨fun j => ?_, fun j => ?_, hmachine, hcurrent⟩
  · by_cases hj : j = i
    · rw [hj, marked_self]
    · rw [marked_of_ne hj]
  · by_cases hj : j = i
    · rw [hj, marked_self]
    · rw [marked_of_ne hj]

/-- A lock file is made or removed while no other lock with its place is acquired. -/
theorem Orderly.marked (h : p.Orderly) (hmachine : later.machine = p.world.machine)
    (hcurrent : later.current = p.world.current)
    (hkeeps : p.world.disk.KeepsDirectories later.disk)
    (hnode : ∀ at', at' ≠ p.place i → later.disk.node? at' = p.world.disk.node? at')
    (hothers : ∀ j, j ≠ i → p.place j = p.place i → (p.locks j).acquired = false)
    (hmade : acquired = true → (p.locks i).file.Leads p.world.disk p.world.current ∧
      ∃ moment, later.disk.node? (p.place i) =
        some (.file (Lock.Owner.content p.world.machine moment).toUTF8 moment))
    (hremoved : acquired = false → later.disk.node? (p.place i) = none) :
    (p.marked i acquired later).Orderly := by
  have hsame : p.Continues (p.marked i acquired later) := continues_marked hmachine hcurrent
  have hplace := hsame.place
  -- A lock that is acquired now is the marked one, or was acquired before and stands elsewhere.
  have hcases (j : ι) (hj : ((p.marked i acquired later).locks j).acquired = true) :
      j = i ∨ (j ≠ i ∧ (p.locks j).acquired = true ∧ p.place j ≠ p.place i) := by
    by_cases hji : j = i
    · exact Or.inl hji
    · rw [acquired_marked_of_ne hji] at hj
      refine Or.inr ⟨hji, hj, fun he => ?_⟩
      rw [hothers j hji he] at hj
      cases hj
  constructor
  case runs => exact hmachine ▸ h.runs
  case named =>
    intro j
    unfold Lock.Named
    rw [hsame.file]
    exact h.named j
  case polls =>
    intro j
    rw [hsame.timeout]
    exact h.polls j
  case directory =>
    intro j
    have hdirectory := hkeeps.directoryAlong (h.directory j)
    rw [hsame.file]
    exact hcurrent ▸ hdirectory
  case alone =>
    intro j k hjk hj hk
    rw [hplace, hplace] at hjk
    obtain rfl | ⟨-, hj', hne⟩ := hcases j hj
    · obtain rfl | ⟨-, -, hne⟩ := hcases k hk
      · rfl
      · exact absurd hjk.symm hne
    · obtain rfl | ⟨-, hk', -⟩ := hcases k hk
      · exact absurd hjk hne
      · exact h.alone j k hjk hj' hk'
  case leads =>
    intro j hj
    rw [hsame.file]
    obtain rfl | ⟨-, hj', -⟩ := hcases j hj
    · exact hcurrent ▸ hkeeps.leads (hmade (acquired_marked_self.symm.trans hj)).1
    · exact hcurrent ▸ hkeeps.leads (h.leads j hj')
  case held =>
    intro j hj
    rw [hplace, hsame.machine]
    obtain rfl | ⟨-, hj', hne⟩ := hcases j hj
    · exact (hmade (acquired_marked_self.symm.trans hj)).2
    · obtain ⟨moment, hn⟩ := h.held j hj'
      exact ⟨moment, (hnode _ hne).trans hn⟩
  case free =>
    intro j hall
    rw [hplace]
    by_cases he : p.place j = p.place i
    · have hi := hall i (by rw [hplace, hplace, he])
      rw [he]
      exact hremoved (acquired_marked_self.symm.trans hi)
    · refine (hnode _ he).trans (h.free j fun k hk => ?_)
      have hki : k ≠ i := by
        rintro rfl
        exact he hk.symm
      have hfree := hall k (by rw [hplace, hplace, hk])
      exact (acquired_marked_of_ne hki).symm.trans hfree

/-! ### Operations -/

theorem Orderly.acquire (h : p.Orderly) (i : ι) :
    p.Continues (p.apply Lock.acquire i).1 ∧ (p.apply Lock.acquire i).1.Orderly := by
  by_cases hi : (p.locks i).acquired = true
  · rw [acquire_of_acquired hi]
    exact ⟨.refl p, h⟩
  · rw [Bool.not_eq_true] at hi
    -- The lock file is another lock's, or there is none, and then only its path can be refused.
    by_cases hheld : ∃ j, p.place j = p.place i ∧ (p.locks j).acquired = true
    · obtain ⟨j, hplace, hj⟩ := hheld
      obtain ⟨now, hacquire⟩ := h.contended hplace.symm hi hj
      rw [hacquire]
      exact ⟨⟨fun _ => rfl, fun _ => rfl, rfl, rfl⟩, h.elsewhere rfl rfl h.directory fun _ => rfl⟩
    · have hnone (j : ι) (hplace : p.place j = p.place i) : (p.locks j).acquired = false :=
        Bool.eq_false_iff.mpr fun hj => hheld ⟨j, hplace, hj⟩
      have hfree := h.free i hnone
      cases hl : (p.locks i).file.locate p.world.disk p.world.current with
      | error cause =>
        have hacquire := Lock.acquire_of_refused hi (h.directory i) hl
        unfold apply
        rw [hacquire]
        exact ⟨.refl p, h⟩
      | ok location =>
        have hleads := Path.leads_of_locate hl
        obtain ⟨later, hacquire, log, rfl⟩ :=
          Lock.acquire_of_free hi (h.directory i) hleads hfree
        have hdirectory := Disk.not_isDirectoryAt_of_none hfree
        unfold apply
        rw [hacquire]
        refine ⟨continues_marked rfl rfl, h.marked rfl rfl (Disk.keepsDirectories_put _ hdirectory)
          (fun at' hne => Disk.node?_put_of_ne _ hne) (fun j _ => hnone j) (fun _ => ⟨hleads, ?_⟩)
          (fun hreleased => absurd hreleased (by decide))⟩
        exact ⟨p.world.now,
          Disk.node?_put_self _ (Disk.ne_nil_of_not_isDirectoryAt hdirectory)⟩

theorem Orderly.release (h : p.Orderly) (i : ι) :
    p.Continues (p.apply Lock.release i).1 ∧ (p.apply Lock.release i).1.Orderly := by
  by_cases hi : (p.locks i).acquired = true
  · obtain ⟨moment, hn⟩ := h.held i hi
    have hheld : (p.locks i).Held p.world :=
      ⟨h.leads i hi, _, Disk.file?_eq_some.mpr ⟨moment, hn⟩⟩
    obtain ⟨later, hrelease, log, rfl⟩ := Lock.release_noted hheld
    have hlock : { p.locks i with acquired := true } = p.locks i := by rw [← hi]
    have hdirectory := Disk.not_isDirectoryAt_of_file hn
    rw [hlock] at hrelease
    unfold apply
    rw [hrelease]
    refine ⟨continues_marked rfl rfl, h.marked rfl rfl (Disk.keepsDirectories_erase hdirectory)
      (fun at' hne => Disk.node?_erase_of_ne hne) (fun j hne hplace => ?_)
      (fun hacquired => absurd hacquired (by decide))
      fun _ => Disk.node?_erase_self (Disk.ne_nil_of_not_isDirectoryAt hdirectory)⟩
    exact Bool.eq_false_iff.mpr fun hj => hne (h.alone j i hplace hj hi)
  · rw [release_of_free (Bool.eq_false_iff.mpr hi)]
    exact ⟨.refl p, h⟩

/-- What holds of the locks of a process after each operation. -/
structure Exclusive (p : Process ι) : Prop where
  /-- Of the locks with one lock file at most one is acquired. -/
  alone : ∀ i j, p.place i = p.place j → (p.locks i).acquired = true →
    (p.locks j).acquired = true → i = j
  /-- The lock file is there as long as one of them is. -/
  exists_iff : ∀ i, p.world.disk.node? (p.place i) ≠ none ↔
    ∃! j, p.place j = p.place i ∧ (p.locks j).acquired = true
  /-- It names this process and its host, and the moment it was made at. -/
  content : ∀ i node, p.world.disk.node? (p.place i) = some node →
    ∃ moment time,
      node = .file (Lock.Owner.content p.world.machine moment).toUTF8 moment ∧
      ∀ limit, Json.parse limit (Lock.Owner.content p.world.machine moment) =
        .ok (.object (Lock.Owner.members p.world.machine time))
  /-- None of the others can be acquired meanwhile, and trying changes no lock and no file. -/
  contended : ∀ i j, p.place i = p.place j → (p.locks i).acquired = false →
    (p.locks j).acquired = true →
    ∃ now, p.apply Lock.acquire i =
      (⟨p.locks, { p.world with now }⟩, some (p.locks i).contention)
  acquire_again : ∀ i, (p.locks i).acquired = true → p.apply Lock.acquire i = (p, none)
  release_again : ∀ i, (p.locks i).acquired = false → p.apply Lock.release i = (p, none)

theorem Orderly.exclusive (h : p.Orderly) : p.Exclusive where
  alone := h.alone
  exists_iff i := by
    constructor
    · intro hne
      by_contra hnone
      refine hne (h.free i fun j hplace => ?_)
      refine Bool.eq_false_iff.mpr fun hj => hnone ⟨j, ⟨hplace, hj⟩, ?_⟩
      rintro k ⟨hk, hacquired⟩
      exact h.alone k j (hk.trans hplace.symm) hacquired hj
    · rintro ⟨j, ⟨hplace, hj⟩, -⟩
      obtain ⟨moment, hn⟩ := h.held j hj
      rw [hplace] at hn
      rw [hn]
      exact Option.some_ne_none _
  content i node hn := by
    by_cases hex : ∃ j, p.place j = p.place i ∧ (p.locks j).acquired = true
    · obtain ⟨j, hplace, hj⟩ := hex
      obtain ⟨moment, hheld⟩ := h.held j hj
      obtain ⟨time, hparse⟩ := Lock.Owner.parse_content moment h.runs.fits
      rw [hplace, hn, Option.some.injEq] at hheld
      exact ⟨moment, time, hheld, hparse⟩
    · have hnone := h.free i fun j hplace =>
        Bool.eq_false_iff.mpr fun hj => hex ⟨j, hplace, hj⟩
      rw [hnone] at hn
      cases hn
  contended i j := h.contended
  acquire_again _ := acquire_of_acquired
  release_again _ := release_of_free

end

end Process

/-! ## Uses of locks -/

section

variable {ι : Type}

/-- What else is done meanwhile.  No lock file is touched, and no directory of one is lost. -/
structure Elsewhere (files : ι → Path) where
  act : World → World
  machine : ∀ w, (act w).machine = w.machine
  current : ∀ w, (act w).current = w.current
  directory : ∀ w i, w.disk.DirectoryAlong w.current (files i).parent →
    (act w).disk.DirectoryAlong w.current (files i).parent
  node : ∀ w i, (act w).disk.node? ((files i).resolve w.current) =
    w.disk.node? ((files i).resolve w.current)

/-- What a process does with locks that have the given files. -/
inductive LockUse (files : ι → Path) where
  | done
  /-- An exception, which ends everything around it that is not guarded. -/
  | raise
  | acquire (i : ι) (next : LockUse files)
  | release (i : ι) (next : LockUse files)
  /-- The lock is acquired before the body, and released however the body ends. -/
  | within (i : ι) (body next : LockUse files)
  /-- However the body ends, something else follows. -/
  | guarded (body next : LockUse files)
  | meanwhile (work : Elsewhere files) (next : LockUse files)

/-- How a use of locks goes: the process after each operation, the process at the end, and whether an
exception has ended it. -/
structure Course (ι : Type) where
  visited : List (Process ι)
  last : Process ι
  raised : Bool

namespace Course

/-- Nothing more is done. -/
def ended (p : Process ι) (raised : Bool) : Course ι :=
  ⟨[], p, raised⟩

/-- An operation, and what follows it unless it fails. -/
def operation (result : Process ι × Option LockFault) (next : Process ι → Course ι) : Course ι :=
  let rest := match result.2 with
    | some _ => ended result.1 true
    | none => next result.1
  { rest with visited := result.1 :: rest.visited }

/-- One course after another one. -/
def followed (first rest : Course ι) : Course ι :=
  { rest with visited := first.visited ++ rest.visited }

/-- Something holds of the process all the time. -/
def Always (P : Process ι → Prop) (course : Course ι) : Prop :=
  (∀ q ∈ course.visited, P q) ∧ P course.last

variable {P : Process ι → Prop} {p : Process ι} {first rest : Course ι}
  {result : Process ι × Option LockFault} {next : Process ι → Course ι}

theorem Always.ended (h : P p) (raised : Bool) : (Course.ended p raised).Always P :=
  ⟨fun _ hq => absurd hq List.not_mem_nil, h⟩

theorem Always.operation (h : P result.1) (hnext : (next result.1).Always P) :
    (Course.operation result next).Always P := by
  have hrest : (match result.2 with
      | some _ => Course.ended result.1 true
      | none => next result.1).Always P := by
    split
    · exact .ended h true
    · exact hnext
  exact ⟨List.forall_mem_cons.mpr ⟨h, hrest.1⟩, hrest.2⟩

theorem Always.followed (h : first.Always P) (hrest : rest.Always P) :
    (first.followed rest).Always P :=
  ⟨List.forall_mem_append.mpr ⟨h.1, hrest.1⟩, hrest.2⟩

end Course

variable [DecidableEq ι] {files : ι → Path}

/-- How the use of locks goes in a process. -/
def LockUse.run : LockUse files → Process ι → Course ι
  | .done, p => .ended p false
  | .raise, p => .ended p true
  | .acquire i next, p => .operation (p.apply Lock.acquire i) next.run
  | .release i next, p => .operation (p.apply Lock.release i) next.run
  | .within i body next, p =>
    .operation (p.apply Lock.acquire i) fun held =>
      let inner := body.run held
      inner.followed (.operation (inner.last.apply Lock.release i) fun left =>
        if inner.raised then .ended left true else next.run left)
  | .guarded body next, p =>
    let inner := body.run p
    inner.followed (next.run inner.last)
  | .meanwhile work next, p =>
    .operation ({ p with world := work.act p.world }, none) next.run

/-- What every operation keeps holds all the time. -/
theorem LockUse.run_always {P : Process ι → Prop}
    (hacquire : ∀ p i, P p → P (p.apply Lock.acquire i).1)
    (hrelease : ∀ p i, P p → P (p.apply Lock.release i).1)
    (hwork : ∀ p (work : Elsewhere files), P p → P { p with world := work.act p.world })
    (use : LockUse files) {p : Process ι} (h : P p) : (use.run p).Always P := by
  induction use generalizing p with
  | done => exact .ended h false
  | raise => exact .ended h true
  | acquire i next ih =>
    have hafter := hacquire p i h
    exact .operation hafter (ih hafter)
  | release i next ih =>
    have hafter := hrelease p i h
    exact .operation hafter (ih hafter)
  | within i body next ihbody ihnext =>
    have hheld := hacquire p i h
    have hbody := ihbody hheld
    have hleft := hrelease _ i hbody.2
    refine .operation hheld (hbody.followed (.operation hleft ?_))
    -- After an exception in the body the lock is released, and nothing follows.
    split
    · exact .ended hleft true
    · exact ihnext hleft
  | guarded body next ihbody ihnext =>
    have hbody := ihbody h
    exact hbody.followed (ihnext hbody.2)
  | meanwhile work next ih =>
    have hafter := hwork p work h
    exact .operation hafter (ih hafter)

/-! ## Exclusion -/

/-- Whatever a process does with its locks, they exclude each other after every operation. -/
theorem LockUse.run_exclusive {p : Process ι} (h : p.Fresh)
    (use : LockUse fun i => (p.locks i).file) :
    ∀ q ∈ p :: (use.run p).visited, p.Continues q ∧ q.Exclusive := by
  have halways : (use.run p).Always fun q => p.Continues q ∧ q.Orderly := by
    refine use.run_always ?_ ?_ ?_ ⟨.refl p, h.orderly⟩
    · rintro q i ⟨hq, horderly⟩
      obtain ⟨hstep, hafter⟩ := horderly.acquire i
      exact ⟨hq.trans hstep, hafter⟩
    · rintro q i ⟨hq, horderly⟩
      obtain ⟨hstep, hafter⟩ := horderly.release i
      exact ⟨hq.trans hstep, hafter⟩
    · rintro q work ⟨hq, horderly⟩
      have hmachine := work.machine q.world
      have hcurrent := work.current q.world
      refine ⟨hq.trans ⟨fun _ => rfl, fun _ => rfl, hmachine, hcurrent⟩,
        horderly.elsewhere hmachine hcurrent ?_ ?_⟩
      · intro i
        have hdirectory := horderly.directory i
        rw [hq.file] at hdirectory ⊢
        exact work.directory q.world i hdirectory
      · intro i
        have hnode := work.node q.world i
        rw [← hq.file] at hnode
        exact hnode
  intro q hq
  obtain rfl | hq := List.mem_cons.mp hq
  · exact ⟨.refl q, h.orderly.exclusive⟩
  · obtain ⟨hsame, horderly⟩ := halways.1 q hq
    exact ⟨hsame, horderly.exclusive⟩

end

/-- Two locks of one manifest, in a directory that the second one is led to by a detour. -/
def Process.pair : Process Bool :=
  { locks := fun detour =>
      Lock.ofManifest ⟨.relative, if detour then ["out", "..", "out"] else ["out"]⟩
        Manifest.fileName (.whole 0)
    world := { World.bare with disk := ⟨[(["out"], .directory 0)]⟩ } }

theorem Process.pair_fresh : Process.pair.Fresh := by
  constructor
  case runs => exact ⟨by decide, by decide⟩
  case lock =>
    intro detour
    refine ⟨_, _, _, rfl, by decide, by decide, ?_⟩
    cases detour with
    | false => exact ⟨Path.locate_eq_ok.mpr ⟨⟨by decide, by decide⟩, rfl⟩, 0, rfl⟩
    | true => exact ⟨Path.locate_eq_ok.mpr ⟨⟨by decide, by decide⟩, rfl⟩, 0, rfl⟩
  case free =>
    intro detour
    cases detour <;> rfl

/-- The second lock is asked for in vain inside of the first one's block, which then fails, and is acquired
after it. -/
def LockUse.pair : LockUse fun i => (Process.pair.locks i).file :=
  .guarded (.within false (.guarded (.acquire true .done) .raise) .done) (.acquire true .done)

theorem LockUse.run_exclusive_pair :
    ((pair.run Process.pair).visited.map fun q =>
        ((q.locks false).acquired, (q.locks true).acquired)) =
      [(true, false), (true, false), (false, false), (false, true)] ∧
    ∀ q ∈ Process.pair :: (pair.run Process.pair).visited,
      Process.pair.Continues q ∧ q.Exclusive :=
  ⟨by decide, run_exclusive Process.pair_fresh pair⟩

/-! ## A path that is too long -/

namespace Path

/-- A name, after so many detours that lead to it and up again. -/
def detour (name : String) : Nat → List String
  | 0 => [name]
  | n + 1 => name :: ".." :: detour name n

theorem detour_ne_nil (name : String) (n : Nat) : detour name n ≠ [] := by
  cases n <;> exact List.cons_ne_nil _ _

theorem utf8ByteSize_detour (name : String) (n : Nat) :
    ("/".intercalate (detour name n)).utf8ByteSize = (n + 1) * name.utf8ByteSize + 4 * n := by
  have hslash : "/".utf8ByteSize = 1 := by decide
  have hup : "..".utf8ByteSize = 2 := by decide
  induction n with
  | zero => simp [detour]
  | succ n ih =>
    rw [detour, String.intercalate_cons_of_ne_nil (List.cons_ne_nil _ _),
      String.intercalate_cons_of_ne_nil (detour_ne_nil name n)]
    simp only [String.utf8ByteSize_append, ih, hslash, hup, Nat.succ_mul]
    omega

theorem hasNul_detour {name : String} (h : name.toList.contains '\x00' = false) (n : Nat) :
    (⟨.relative, detour name n⟩ : Path).hasNul = false := by
  have hup : "..".toList.contains '\x00' = false := by decide
  unfold hasNul
  induction n with
  | zero => simp only [detour, List.any_cons, List.any_nil, h, Bool.or_false]
  | succ n ih => simp only [detour, List.any_cons, h, hup, ih, Bool.or_false]

theorem render_relative {parts : List String} (h : parts ≠ []) :
    (⟨.relative, parts⟩ : Path).render = "/".intercalate parts := by
  cases parts with
  | nil => exact absurd rfl h
  | cons part parts => rfl

theorem walk_detour {disk : Disk} {at' : Location} {name : String} (hd : disk.IsDirectoryAt at')
    (hnext : disk.IsDirectoryAt (at' ++ [name])) (hs : Disk.step at' name = .ok (at' ++ [name]))
    (n : Nat) : disk.walk at' (detour name n) = .ok (at' ++ [name]) := by
  induction n with
  | zero => exact Disk.walk_cons.mpr ⟨hd, _, hs, rfl⟩
  | succ n ih =>
    have hup : Disk.step (at' ++ [name]) ".." = .ok at' := by
      rw [Disk.step, if_pos rfl, List.dropLast_concat]
    exact Disk.walk_cons.mpr ⟨hd, _, hs, Disk.walk_cons.mpr ⟨hnext, _, hup, ih⟩⟩

end Path

/-- Two locks of one manifest in a directory that the second one is led to by many detours.  The path of its
lock file is longer than the system takes. -/
def Process.distant : Process Bool :=
  { locks := fun far =>
      Lock.ofManifest ⟨.relative, Path.detour "d" (if far then 814 else 0)⟩ Manifest.fileName
        (.whole 0)
    world := { World.bare with disk := ⟨[(["d"], .directory 0)]⟩ } }

namespace Process

theorem distant_file (far : Bool) : (distant.locks far).file =
    ⟨.relative, Path.detour "d" (if far then 814 else 0) ++ [Manifest.fileName ++ ".lock"]⟩ :=
  Lock.ofManifest_file _ (by decide) _

theorem distant_locate (far : Bool) :
    (⟨.relative, Path.detour "d" (if far then 814 else 0)⟩ : Path).locate distant.world.disk [] =
      .ok ["d"] := by
  have hsize := Path.utf8ByteSize_detour "d" (if far then 814 else 0)
  have hname : "d".utf8ByteSize = 1 := by decide
  refine Path.locate_eq_ok.mpr ⟨⟨Path.hasNul_detour (by decide) _, ?_⟩, ?_⟩
  · rw [Path.render_relative (Path.detour_ne_nil _ _), hsize, hname]
    cases far <;> decide
  · have hstep : Disk.step [] "d" = .ok ["d"] := by decide
    exact Path.walk_detour ⟨0, rfl⟩ ⟨0, rfl⟩ hstep _

theorem distant_place (far : Bool) : distant.place far = ["d", Manifest.fileName ++ ".lock"] := by
  unfold place Lock.place
  rw [distant_file, Path.resolve_concat _ _ (Lock.ending_ne _ (by decide))]
  rw [show distant.world.current = [] from rfl, ← Path.locate_eq_resolve (distant_locate far)]
  rfl

theorem distant_fresh : distant.Fresh := by
  constructor
  case runs => exact ⟨by decide, by decide⟩
  case lock =>
    intro far
    have hlocate := distant_locate far
    refine ⟨_, _, _, rfl, by decide, by decide, Path.leads_of_locate hlocate, ?_⟩
    rw [show distant.world.current = [] from rfl, ← Path.locate_eq_resolve hlocate]
    exact ⟨0, rfl⟩
  case free =>
    intro far
    rw [distant_place]
    rfl

theorem distant_tooLong :
    Disk.pathLimit < (distant.locks true).file.render.utf8ByteSize := by
  have hsize := Path.utf8ByteSize_detour "d" 814
  have hname : "d".utf8ByteSize = 1 := by decide
  have hlast : (Manifest.fileName ++ ".lock").utf8ByteSize = 24 := by decide
  have hslash : "/".utf8ByteSize = 1 := by decide
  rw [distant_file, if_pos rfl, Path.render_relative (by simp),
    String.intercalate_append_of_ne_nil (Path.detour_ne_nil _ _) (by simp),
    String.intercalate_singleton]
  simp only [String.utf8ByteSize_append, hsize, hlast, hname, hslash]
  decide

/-- While one of the locks is acquired, asking for the other one with the same lock file does not time
out. -/
theorem distant_cannotCreate :
    distant.Fresh ∧ distant.place true = distant.place false ∧
    ∃ held, distant.apply Lock.acquire false = (held, none) ∧
      (held.locks false).acquired = true ∧ (held.locks true).acquired = false ∧
      (held.apply Lock.acquire true).2 =
        some (.cannotCreate (distant.locks true).file .nameTooLong) := by
  have hacquires : (distant.locks false).acquire.succeeds distant.world = true := by
    decide
  obtain ⟨lock, hacquire⟩ := Job.exists_of_succeeds hacquires
  obtain ⟨rfl, -⟩ := Lock.acquire_eq_ok rfl hacquire
  -- All that counts of the world after it is kept by every operation.
  generalize (distant.locks false).acquire.after distant.world = later at hacquire
  have happly : distant.apply Lock.acquire false = (distant.marked false true later, none) := by
    unfold apply
    rw [hacquire]
    rfl
  obtain ⟨hsame, hafter⟩ := distant_fresh.orderly.acquire false
  rw [happly] at hsame hafter
  have hself : ((distant.marked false true later).locks false).acquired = true := by
    rw [marked_self]
  have hother : ((distant.marked false true later).locks true).acquired = false := by
    rw [marked_of_ne (by decide)]
    rfl
  have hplace : distant.place true = distant.place false := by
    rw [distant_place, distant_place]
  have hmarked : (distant.marked false true later).place true =
      (distant.marked false true later).place false := by
    rw [hsame.place, hsame.place, hplace]
  obtain ⟨now, hcontended⟩ := hafter.contended hmarked hother hself
  refine ⟨distant_fresh, hplace, _, happly, hself, hother, ?_⟩
  rw [hcontended, Lock.contention, hsame.file, if_pos distant_tooLong]

end Process

end ViewGen
