import Mathlib.Data.List.Forall2
import Mathlib.Data.List.Nodup
import Mathlib.Data.List.ProdSigma
import ViewGen.Proofs.Jobs
import ViewGen.Proofs.ManifestText
import ViewGen.Proofs.Names
import ViewGen.Reconcile

/-!
# Rendering, deciding and writing views

A reconciliation holds one view for every model and kind, in order, and leaves a view alone only if an
entry of the previous manifest has its fingerprint.  Views are written in order up to the first that
fails, and where their places differ, every view written stands at its place in the end.
-/

namespace ViewGen

/-! ## Rendering -/

section

variable {ε : Type} {previous : Manifest} {render again : Renderings ε} {extension : String}
  {number : Nat} {models : List Model} {pairs : List (Model × ViewKind)}
  {views : List RenderedView} {view : RenderedView} {result : Reconciliation}

/-- The view of a model and a kind, as one of the renderings gives it. -/
def RenderedView.Shows (previous : Manifest) (render : Renderings ε) (extension : String)
    (pair : Model × ViewKind) (view : RenderedView) : Prop :=
  ∃ number content, render number pair.2 pair.1 = .ok content ∧
    view = .ofContent previous extension pair.1.name pair.2 content

/-- Whatever the first renderings have given, the others give at any time. -/
def Repeats (render again : Renderings ε) : Prop :=
  ∀ number other kind model content, render number kind model = .ok content →
    again other kind model = .ok content

/-- The views are shown, each by the rendering of its number. -/
theorem shows_of_renderViews
    (h : renderViews previous render extension number pairs = (views, .ok ())) :
    List.Forall₂ (RenderedView.Shows previous render extension) pairs views := by
  -- On the pairs, as the views are rendered.
  induction pairs generalizing number views with
  | nil =>
    rw [renderViews, Prod.mk.injEq] at h
    exact h.1 ▸ .nil
  | cons pair rest ih =>
    obtain ⟨model, kind⟩ := pair
    rw [renderViews] at h
    split at h
    · cases h
    · rename_i content hc
      rcases hr : renderViews previous render extension (number + 1) rest with ⟨others, ended⟩
      rw [hr] at h
      cases h
      exact .cons ⟨number, content, hc, rfl⟩ (ih hr)

/-- Renderings that repeat what has been shown show it again. -/
theorem renderViews_of_shows (hrepeats : Repeats render again) (number : Nat)
    (h : List.Forall₂ (RenderedView.Shows previous render extension) pairs views) :
    renderViews previous again extension number pairs = (views, .ok ()) := by
  induction h generalizing number with
  | nil => rfl
  | cons hshows _ ih =>
    obtain ⟨other, content, hc, rfl⟩ := hshows
    simp only [renderViews, hrepeats other number _ _ _ hc, ih]

theorem reconcileAll_eq_ok (h : reconcileAll models previous render extension = .ok result) :
    ∃ views, List.Forall₂ (RenderedView.Shows previous render extension) (viewsOf models) views ∧
      result = .ofViews previous views := by
  unfold reconcileAll at h
  split at h
  · cases h
  · rename_i views hr
    cases h
    exact ⟨views, shows_of_renderViews hr, rfl⟩

theorem reconcileAll_of_shows (hrepeats : Repeats render again)
    (h : List.Forall₂ (RenderedView.Shows previous render extension) (viewsOf models) views) :
    reconcileAll models previous again extension = .ok (.ofViews previous views) := by
  unfold reconcileAll
  rw [renderViews_of_shows hrepeats 0 h]

/-- Where every rendering of a view ends like any other, what is reconciled is what is shown. -/
theorem reconcile_eq_ok {render : Renderer ε} :
    reconcile models previous render extension = .ok result ↔
      ∃ views, List.Forall₂ (RenderedView.Shows previous (fun _ => render) extension)
          (viewsOf models) views ∧ result = .ofViews previous views := by
  refine ⟨reconcileAll_eq_ok, ?_⟩
  rintro ⟨views, hshows, rfl⟩
  exact reconcileAll_of_shows (fun _ _ _ _ _ h => h) hshows

theorem forM_note_noted (views : List RenderedView) (w : World) :
    ∃ later, w.Noted later ∧
      (views.forM fun view => Job.note .info view.note : Job ε PUnit) w = .ok ⟨⟩ later := by
  induction views generalizing w with
  | nil => exact ⟨w, .refl w, rfl⟩
  | cons view rest ih =>
    obtain ⟨later, hn, hr⟩ := ih { w with log := w.log ++ [⟨.info, view.note⟩] }
    have hfirst : w.Noted { w with log := w.log ++ [⟨.info, view.note⟩] } := ⟨_, rfl⟩
    exact ⟨later, hfirst.trans hn, hr⟩

/-- Reconciling as a job only notes what it decides. -/
theorem reconcileNoting_answers (models : List Model) (previous : Manifest)
    (render : Renderings ε) (extension : String) (w : World) :
    (reconcileNoting models previous render extension).Answers w
      (reconcileAll models previous render extension) := by
  obtain ⟨later, hn, hnote⟩ := forM_note_noted (ε := ε)
    (renderViews previous render extension 0 (viewsOf models)).1 w
  refine ⟨later, hn, ?_⟩
  -- What has been rendered before a fault is noted, too.
  unfold reconcileNoting reconcileAll
  rcases hr : renderViews previous render extension 0 (viewsOf models) with ⟨views, ended⟩
  rw [hr] at hnote
  simp only
  rw [Job.bind_of_ok hnote]
  cases ended with
  | ok u => rfl
  | error fault => rfl

/-! ## What the views are -/

theorem exists_of_mem_right {α β : Type} {R : α → β → Prop} {l : List α} {l' : List β} {b : β}
    (h : List.Forall₂ R l l') (hb : b ∈ l') : ∃ a ∈ l, R a b := by
  induction h with
  | nil => exact nomatch hb
  | @cons a _ rest _ hrelated _ ih =>
    obtain rfl | hrest := List.mem_cons.mp hb
    · exact ⟨a, List.mem_cons_self, hrelated⟩
    · obtain ⟨a, ha, hrelated⟩ := ih hrest
      exact ⟨a, List.mem_cons_of_mem _ ha, hrelated⟩

/-- Path, fingerprint and decision of a view follow from its model, kind and content. -/
theorem shown_of_mem
    (h : List.Forall₂ (RenderedView.Shows previous render extension) pairs views)
    (hm : view ∈ views) :
    view.path = viewPath view.model view.kind extension ∧ view.hash = fingerprint view.content ∧
      view.decision = RenderedView.decide previous view.model view.kind view.hash := by
  obtain ⟨pair, -, number, content, -, rfl⟩ := exists_of_mem_right h hm
  simp only [RenderedView.ofContent, and_self]

/-- The views are those of all models and kinds, in order. -/
theorem map_key_of_shows
    (h : List.Forall₂ (RenderedView.Shows previous render extension) pairs views) :
    views.map (fun view => (view.model, view.kind)) =
      pairs.map fun pair => (pair.1.name, pair.2) := by
  induction h with
  | nil => rfl
  | cons hshows _ ih =>
    obtain ⟨number, content, -, rfl⟩ := hshows
    rw [List.map_cons, List.map_cons, ih]
    rfl

theorem exists_pair_of_mem
    (h : List.Forall₂ (RenderedView.Shows previous render extension) pairs views)
    (hm : view ∈ views) : ∃ pair ∈ pairs, pair.1.name = view.model ∧ pair.2 = view.kind := by
  have hkey := List.mem_map_of_mem (f := fun view : RenderedView => (view.model, view.kind)) hm
  rw [map_key_of_shows h, List.mem_map] at hkey
  obtain ⟨pair, hpair, he⟩ := hkey
  exact ⟨pair, hpair, congrArg Prod.fst he, congrArg Prod.snd he⟩

end

theorem mem_of_mem_viewsOf {models : List Model} {pair : Model × ViewKind}
    (h : pair ∈ viewsOf models) : pair.1 ∈ models := by
  obtain ⟨model, hmodel, hkinds⟩ := List.mem_flatMap.mp h
  obtain ⟨kind, -, rfl⟩ := List.mem_map.mp hkinds
  exact hmodel

/-- Models that differ in a property have views that differ in it or in their kind. -/
theorem nodup_viewsOf {α : Type} {models : List Model} {f : Model → α}
    (h : (models.map f).Nodup) : ((viewsOf models).map fun pair => (f pair.1, pair.2)).Nodup := by
  have hall : ViewKind.all.Nodup := by decide
  have hproduct : (viewsOf models).map (fun pair => (f pair.1, pair.2)) =
      (models.map f) ×ˢ ViewKind.all := by
    unfold viewsOf
    simp only [SProd.sprod, List.product, List.map_flatMap, List.flatMap_map, List.map_map]
    rfl
  rw [hproduct]
  exact h.product hall

/-! ## Deciding -/

theorem RenderedView.decision_of_isChanged {view : RenderedView} (h : view.isChanged = false) :
    view.decision = .unchanged := by
  unfold isChanged at h
  cases hdecision : view.decision with
  | changed =>
    rw [hdecision] at h
    cases h
  | unchanged => rfl

theorem decide_eq_unchanged {previous : Manifest} {model hash : String} {kind : ViewKind}
    (h : RenderedView.decide previous model kind hash = .unchanged) :
    ∃ entry ∈ previous.entries, entry.model = .ofString model ∧
      entry.viewType = .ofString kind.name ∧ entry.hash = .ofString hash := by
  unfold RenderedView.decide at h
  split at h
  · rename_i entry hfind
    split at h
    · rename_i hhash
      have hkey := List.find?_some hfind
      rw [Bool.and_eq_true, beq_iff_eq, beq_iff_eq] at hkey
      exact ⟨entry, List.mem_of_find?_eq_some hfind, hkey.1, hkey.2, hhash⟩
    · cases h
  · cases h

/-- Where no two elements have the same key, each is found by its own. -/
theorem find?_key_of_mem {α β : Type} [BEq β] [LawfulBEq β] {key : α → β} {l : List α} {a : α}
    (hn : (l.map key).Nodup) (hm : a ∈ l) : l.find? (fun other => key other == key a) = some a := by
  induction l with
  | nil => exact nomatch hm
  | cons first rest ih =>
    rw [List.map_cons, List.nodup_cons] at hn
    rw [List.find?_cons]
    obtain rfl | hrest := List.mem_cons.mp hm
    · rw [beq_self_eq_true]
    · have hne : (key first == key a) = false := by
        rw [beq_eq_false_iff_ne]
        intro he
        exact hn.1 (he ▸ List.mem_map_of_mem hrest)
      rw [hne]
      exact ih hn.2 hrest

theorem find?_of_mem {manifest : Manifest} {entry : ManifestEntry}
    (hn : (manifest.entries.map fun entry => (entry.model, entry.viewType)).Nodup)
    (hm : entry ∈ manifest.entries) :
    manifest.find? entry.model entry.viewType = some entry :=
  find?_key_of_mem hn hm

/-- Where every model has a name of its own, a manifest of all views knows each of them. -/
theorem decide_of_entries {ε : Type} {previous : Manifest} {render : Renderings ε}
    {extension : String} {models : List Model} {views : List RenderedView} {view : RenderedView}
    (h : List.Forall₂ (RenderedView.Shows previous render extension) (viewsOf models) views)
    (hnames : (models.map (·.name)).Nodup) (version : Units) (hm : view ∈ views) :
    RenderedView.decide ⟨version, views.map (·.entry)⟩ view.model view.kind view.hash =
      .unchanged := by
  -- The lookup stops at the first entry of a model and a kind, so there must not be two.
  have hkeys : (views.map fun view => (view.model, view.kind)).Nodup :=
    map_key_of_shows h ▸ nodup_viewsOf hnames
  have hentries : ((views.map (·.entry)).map fun entry => (entry.model, entry.viewType)).Nodup := by
    have hinj : Function.Injective fun key : String × ViewKind =>
        (Units.ofString key.1, Units.ofString key.2.name) := by
      intro key other he
      rw [Prod.mk.injEq, Units.ofString_inj, Units.ofString_inj] at he
      exact Prod.ext he.1 (ViewKind.name_inj he.2)
    have hmap := hkeys.map hinj
    rw [List.map_map] at hmap ⊢
    exact hmap
  have hentry : view.entry ∈ (⟨version, views.map (·.entry)⟩ : Manifest).entries :=
    List.mem_map_of_mem hm
  have hfind := find?_of_mem hentries hentry
  unfold RenderedView.decide
  rw [show Manifest.find? _ (.ofString view.model) (.ofString view.kind.name) = _ from hfind]
  exact if_pos rfl

theorem Reconciliation.nodup_map_changed {α : Type} {result : Reconciliation} {f : RenderedView → α}
    (h : (result.views.map f).Nodup) : (result.changed.map f).Nodup :=
  h.sublist (List.filter_sublist.map f)

/-- The view as it is when nothing of it has changed. -/
def RenderedView.left (view : RenderedView) : RenderedView :=
  { view with decision := .unchanged }

/-- The view as it is when nothing of it has changed but the extension that it would be written with. -/
def RenderedView.moved (extension : String) (view : RenderedView) : RenderedView :=
  { view.left with path := viewPath view.model view.kind extension }

theorem RenderedView.isChanged_left (view : RenderedView) : view.left.isChanged = false := rfl

theorem RenderedView.isChanged_moved (extension : String) (view : RenderedView) :
    (view.moved extension).isChanged = false := rfl

theorem Reconciliation.changed_map_eq_nil {f : RenderedView → RenderedView}
    (hf : ∀ view, (f view).isChanged = false) (previous : Manifest) (views : List RenderedView) :
    (Reconciliation.ofViews previous (views.map f)).changed = [] := by
  unfold Reconciliation.changed
  rw [List.filter_eq_nil_iff]
  intro view hm
  obtain ⟨other, -, rfl⟩ := List.mem_map.mp hm
  rw [hf]
  exact Bool.false_ne_true

/-- A manifest that knows all views leaves them alone when they are shown again, whatever the extension
is then. -/
theorem shows_moved {ε : Type} {previous next : Manifest} {render : Renderings ε}
    {extension : String} {pairs : List (Model × ViewKind)} {views : List RenderedView}
    (h : List.Forall₂ (RenderedView.Shows previous render extension) pairs views)
    (hknown : ∀ view ∈ views, RenderedView.decide next view.model view.kind view.hash =
      .unchanged) (other : String) :
    List.Forall₂ (RenderedView.Shows next render other) pairs (views.map (·.moved other)) := by
  induction h with
  | nil => exact .nil
  | @cons pair view _ _ hshows _ ih =>
    refine .cons ?_ (ih fun other hm => hknown other (List.mem_cons_of_mem view hm))
    have hdecision := hknown view List.mem_cons_self
    obtain ⟨number, content, hcontent, rfl⟩ := hshows
    refine ⟨number, content, hcontent, ?_⟩
    simp only [RenderedView.ofContent, RenderedView.left, RenderedView.moved] at hdecision ⊢
    rw [hdecision]

theorem map_moved_of_shows {ε : Type} {previous : Manifest} {render : Renderings ε}
    {extension : String} {pairs : List (Model × ViewKind)} {views : List RenderedView}
    (h : List.Forall₂ (RenderedView.Shows previous render extension) pairs views) :
    views.map (·.moved extension) = views.map (·.left) := by
  refine List.map_congr_left fun view hm => ?_
  rw [RenderedView.moved, ← (shown_of_mem h hm).1]
  rfl

/-! ## Writing -/

namespace Disk

variable {disk later : Disk} {current : Location} {now : Moment} {path : Path}
  {content : ByteArray}

theorem placeFile_eq_ok (h : disk.placeFile current now path content = (later, .ok ())) :
    Grows {path.resolve current} disk later ∧ later.fileContent current path = .ok content := by
  unfold placeFile at h
  have hgrows := disk.ensureDirectories_grows current now path.parent
  rcases hmake : disk.ensureDirectories current now path.parent with ⟨made, fault | u⟩
  · rw [hmake] at h
    cases h
  · rw [hmake] at h hgrows
    dsimp only at h
    split at h
    · cases h
    · rename_i written hwrite
      cases h
      obtain ⟨hl, hd, rfl⟩ := writeFile_eq_ok.mp hwrite
      have hput := Grows.putFile hd content now
      have hfile := made.file?_put_self content now (ne_nil_of_not_isDirectoryAt hd)
      exact ⟨(hgrows.mono (Set.empty_subset _)).trans hput,
        fileContent_eq_ok.mpr ⟨hput.keepsDirectories.leads hl, hfile⟩⟩

theorem placeFile_error {fault : DiskFault}
    (h : disk.placeFile current now path content = (later, .error fault)) :
    Grows ∅ disk later := by
  unfold placeFile at h
  have hgrows := disk.ensureDirectories_grows current now path.parent
  rcases hmake : disk.ensureDirectories current now path.parent with ⟨made, fault | u⟩
  · rw [hmake] at h hgrows
    cases h
    exact hgrows
  · rw [hmake] at h hgrows
    dsimp only at h
    split at h
    · cases h
      exact hgrows
    · cases h

end Disk

/-- Where a view stands below an output root. -/
def RenderedView.place (output : Path) (current : Location) (view : RenderedView) : Location :=
  (output.join view.path).resolve current

/-- The places of views. -/
def placesOf (output : Path) (views : List RenderedView) (current : Location) : Set Location :=
  { place | ∃ view ∈ views, view.place output current = place }

section

variable {current : Location} {now : Moment} {output : Path} {views : List RenderedView}
  {disk : Disk}

/-- The views written are the first ones, and all of them unless there is a fault. -/
theorem writeAll_initial (current : Location) (now : Moment) (output : Path)
    (views : List RenderedView) (disk : Disk) :
    (writeAll current now output views disk).2.1 <+: views ∧
      ((writeAll current now output views disk).2.2 = .ok () →
        (writeAll current now output views disk).2.1 = views) := by
  induction views generalizing disk with
  | nil => exact ⟨List.prefix_rfl, fun _ => rfl⟩
  | cons view rest ih =>
    rw [writeAll]
    rcases hplace : disk.placeFile current now (output.join view.path) view.content.toUTF8 with
      ⟨later, fault | u⟩
    · exact ⟨List.nil_prefix, fun h => nomatch h⟩
    · obtain ⟨hinitial, hall⟩ := ih later
      exact ⟨List.prefix_cons_inj view |>.mpr hinitial, fun h => congrArg (view :: ·) (hall h)⟩

/-- A fault leaves a view unwritten. -/
theorem writeAll_of_all (h : (writeAll current now output views disk).2.1 = views) :
    (writeAll current now output views disk).2.2 = .ok () := by
  induction views generalizing disk with
  | nil => rfl
  | cons view rest ih =>
    rw [writeAll] at h ⊢
    rcases hplace : disk.placeFile current now (output.join view.path) view.content.toUTF8 with
      ⟨later, fault | u⟩
    · rw [hplace] at h
      cases h
    · rw [hplace] at h
      exact ih (List.cons.inj h).2

theorem writeAll_grows (current : Location) (now : Moment) (output : Path)
    (views : List RenderedView) (disk : Disk) :
    disk.Grows (placesOf output (writeAll current now output views disk).2.1 current)
      (writeAll current now output views disk).1 := by
  induction views generalizing disk with
  | nil => exact .refl _ disk
  | cons view rest ih =>
    rw [writeAll]
    rcases hplace : disk.placeFile current now (output.join view.path) view.content.toUTF8 with
      ⟨later, fault | u⟩
    · exact (Disk.placeFile_error hplace).mono (Set.empty_subset _)
    · -- The first view's place is added to those of the rest.
      have hfirst := (Disk.placeFile_eq_ok hplace).1
      refine (hfirst.mono ?_).trans ((ih later).mono ?_)
      · intro place hp
        exact ⟨view, List.mem_cons_self, hp.symm⟩
      · intro place hp
        obtain ⟨other, hm, he⟩ := hp
        exact ⟨other, List.mem_cons_of_mem view hm, he⟩

/-- Views at different places stand there when all are written. -/
theorem writeAll_content (hn : (views.map (·.place output current)).Nodup) {view : RenderedView}
    (hm : view ∈ (writeAll current now output views disk).2.1) :
    (writeAll current now output views disk).1.fileContent current (output.join view.path) =
      .ok view.content.toUTF8 := by
  induction views generalizing disk with
  | nil => exact nomatch hm
  | cons first rest ih =>
    rw [List.map_cons, List.nodup_cons] at hn
    rw [writeAll] at hm ⊢
    rcases hplace : disk.placeFile current now (output.join first.path) first.content.toUTF8 with
      ⟨later, fault | u⟩
    · rw [hplace] at hm
      exact nomatch hm
    · rw [hplace] at hm
      obtain rfl | hrest := List.mem_cons.mp hm
      · -- No later view is written to the same place.
        have hgrows := writeAll_grows current now output rest later
        refine hgrows.keepsDirectories.fileContent (hgrows.file?_eq ?_)
          (Disk.placeFile_eq_ok hplace).2
        intro hp
        obtain ⟨other, hother, he⟩ := hp
        have hsub := (writeAll_initial current now output rest later).1.subset hother
        exact hn.1 (List.mem_map.mpr ⟨other, hsub, he⟩)
      · exact ih hn.2 hrest

/-- Writing as a job changes the disk and notes, and its result lists the paths written. -/
theorem writeViews_eq (result : Reconciliation) (output : Path) (w : World) :
    ∃ later : World,
      World.Noted { w with disk := (writeAll w.current w.now output result.changed w.disk).1 } later ∧
      ∀ ε : Type, (writeViews result output : Job ε _) w = .ok
        ({ result with written := result.written ++
            (writeAll w.current w.now output result.changed w.disk).2.1.map (·.path) },
          (writeAll w.current w.now output result.changed w.disk).2.2.map fun _ =>
            (writeAll w.current w.now output result.changed w.disk).2.1.map
              fun view => output.join view.path) later := by
  have hget : ∀ ε, (get : Job ε World) w = .ok w w := fun _ => rfl
  rcases hall : writeAll w.current w.now output result.changed w.disk with
    ⟨disk, written, fault | u⟩
  · refine ⟨{ w with disk }, .refl _, fun ε => ?_⟩
    unfold writeViews
    rw [Job.bind_of_ok (hget ε), hall]
    rfl
  · refine ⟨{ w with
      disk
      log := w.log ++ [⟨.debug, "Wrote " ++ toString written.length ++ " views under " ++
        output.render⟩] }, ⟨_, rfl⟩, fun ε => ?_⟩
    unfold writeViews
    rw [Job.bind_of_ok (hget ε), hall]
    rfl

end

end ViewGen
