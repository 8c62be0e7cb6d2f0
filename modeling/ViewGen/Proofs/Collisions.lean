import ViewGen.Proofs.Containment
import ViewGen.Proofs.PartialWrites
import ViewGen.Proofs.Reruns
import ViewGen.Proofs.Sites

/-!
# Colliding views

The path of a view is spelled by the name of its model and by its kind, both in lower case, and its text
can be read back.  So two views have one path, or one text of it, exactly if they are of one kind and their
models have one name in lower case; and where no two models have, no view of a run is written over another.
-/

namespace ViewGen

namespace Path

variable {path other : Path} {parts : List String}

/-! ## Texts of paths -/

/-- Names between slashes are cut where they were joined. -/
theorem parts_parse_intercalate (h : ∀ part ∈ parts, IsPart part) :
    (parse ("/".intercalate parts)).parts = parts := by
  cases parts with
  | nil => decide
  | cons part rest =>
    have hslash : ∀ t ∈ (part :: rest).map String.toList, '/' ∉ t := by
      intro t ht
      obtain ⟨name, hname, rfl⟩ := List.mem_map.mp ht
      exact (h name hname).2.2
    have hkept : ∀ name ∈ part :: rest, (name != "" && name != ".") = true := by
      intro name hname
      rw [Bool.and_eq_true, bne_iff_ne, bne_iff_ne]
      exact ⟨(h name hname).1, (h name hname).2.1⟩
    have hpieces : Text.pieces '/' ("/".intercalate (part :: rest)).toList =
        (part :: rest).map String.toList := by
      rw [String.toList_intercalate]
      exact Text.pieces_intercalate_of_not_mem (by simp) hslash
    unfold parse
    rw [hpieces, List.map_map, List.filter_eq_self.mpr]
    · simp
    · simpa using hkept

theorem head?_intercalate (h : ∀ part ∈ parts, IsPart part) :
    ("/".intercalate parts).toList.head? ≠ some '/' := by
  cases parts with
  | nil => decide
  | cons part rest =>
    obtain ⟨hne, -, hslash⟩ := h part List.mem_cons_self
    have hchars : part.toList ≠ [] := fun he => hne (String.toList_eq_nil_iff.mp he)
    have hhead : ("/".intercalate (part :: rest)).toList.head? = part.toList.head? := by
      cases rest with
      | nil => rw [String.intercalate_singleton]
      | cons next others =>
        rw [String.intercalate_cons_cons, String.toList_append, String.toList_append,
          List.append_assoc, List.head?_append_of_ne_nil _ hchars]
    rw [hhead]
    exact fun he => hslash (List.mem_of_mem_head? he)

/-- A slash before a text adds no part. -/
theorem parts_parse_slash (s : String) : (parse ("/" ++ s)).parts = (parse s).parts := by
  have hchars : ("/" ++ s).toList = '/' :: s.toList := String.toList_append
  unfold parse
  rw [hchars, Text.pieces_cons_self]
  rfl

/-- One slash or two before a text that begins with none. -/
theorem anchorOf_slashes {s : List Char} (h : s.head? ≠ some '/') :
    anchorOf ('/' :: s) = .root ∧ anchorOf ('/' :: '/' :: s) = .doubleRoot := by
  cases s with
  | nil => exact ⟨rfl, rfl⟩
  | cons c rest =>
    have hc : c ≠ '/' := fun he => h (congrArg some he)
    simp [anchorOf, hc]

/-- Read as a path, the text of a path is the path. -/
theorem parse_render (h : ∀ part ∈ path.parts, IsPart part) : parse path.render = path := by
  obtain ⟨anchor, parts⟩ := path
  have hparts := parts_parse_intercalate h
  have hhead := head?_intercalate h
  have hread : ∀ s, parse s = ⟨anchorOf s.toList, (parse s).parts⟩ := fun _ => rfl
  cases anchor with
  | relative =>
    -- A path without parts is written as a dot.
    cases parts with
    | nil => decide
    | cons part rest =>
      have htext : render ⟨.relative, part :: rest⟩ = "/".intercalate (part :: rest) := rfl
      rw [htext, hread, anchorOf_eq_relative.mpr hhead, hparts]
  | root =>
    have htext : render ⟨.root, parts⟩ = "/" ++ "/".intercalate parts := rfl
    have hchars : ("/" ++ "/".intercalate parts).toList = '/' :: ("/".intercalate parts).toList :=
      String.toList_append
    rw [htext, hread, hchars, (anchorOf_slashes hhead).1, parts_parse_slash, hparts]
  | doubleRoot =>
    have htext : render ⟨.doubleRoot, parts⟩ = "/" ++ ("/" ++ "/".intercalate parts) := by
      rw [← String.append_assoc]
      rfl
    have hchars : ("/" ++ ("/" ++ "/".intercalate parts)).toList =
        '/' :: '/' :: ("/".intercalate parts).toList := by
      rw [String.toList_append, String.toList_append]
      rfl
    rw [htext, hread, hchars, (anchorOf_slashes hhead).2, parts_parse_slash, parts_parse_slash,
      hparts]

theorem render_inj (h : ∀ part ∈ path.parts, IsPart part) (h' : ∀ part ∈ other.parts, IsPart part) :
    path.render = other.render ↔ path = other := by
  constructor
  · intro he
    rw [← parse_render h, ← parse_render h', he]
  · rintro rfl
    rfl

end Path

/-! ## Paths of views -/

section

variable {model other extension : String} {kind kind' : ViewKind}

theorem render_viewPath (hmodel : Path.IsName model) (hext : '/' ∉ extension.toList) :
    (viewPath model kind extension).render =
      "routes/" ++ Text.lower model ++ "/" ++ Text.lower kind.name ++ "." ++ extension := by
  have hroutes : "routes/" = "routes" ++ "/" := by decide
  rw [viewPath_of_isName hmodel hext]
  simp only [Path.render, viewNames, String.intercalate_cons_cons, String.intercalate_singleton,
    String.append_assoc, hroutes]

theorem viewPath_eq_iff (hmodel : Path.IsName model) (hother : Path.IsName other)
    (hext : '/' ∉ extension.toList) :
    viewPath model kind extension = viewPath other kind' extension ↔
      Text.lower model = Text.lower other ∧ kind = kind' := by
  rw [viewPath_of_isName hmodel hext, viewPath_of_isName hother hext, Path.mk.injEq]
  constructor
  · rintro ⟨-, h⟩
    exact viewNames_inj h
  · rintro ⟨hlower, rfl⟩
    exact ⟨rfl, by rw [viewNames, viewNames, hlower]⟩

-- A name with a slash collides with others, too: joining drops the dot.
example : viewPath "./a" .list "tsx" = viewPath "A" .list "tsx" := by decide

theorem isPart_of_mem_viewPath (hmodel : Path.IsName model) (hext : '/' ∉ extension.toList) :
    ∀ part ∈ (viewPath model kind extension).parts, Path.IsPart part := by
  rw [viewPath_of_isName hmodel hext]
  intro part hm
  simp only [viewNames, List.mem_cons, List.not_mem_nil, or_false] at hm
  obtain rfl | rfl | rfl := hm
  · decide
  · exact hmodel.lower.1
  · exact (isName_kind kind hext).1

end

/-! ## Views of a reconciliation -/

/-- Models whose views differ in a property or in their kind differ in the property. -/
theorem nodup_of_nodup_viewsOf {α : Type} {models : List Model} {f : Model → α}
    (h : ((viewsOf models).map fun pair => (f pair.1, pair.2)).Nodup) : (models.map f).Nodup := by
  have hlists : (models.map fun model => (model, ViewKind.list)).Sublist (viewsOf models) := by
    rw [List.map_eq_flatMap]
    exact List.Sublist.flatMap_right _ fun model _ =>
      List.singleton_sublist.mpr (by simp [ViewKind.all])
  have hpairs := h.sublist (hlists.map fun pair => (f pair.1, pair.2))
  rw [List.map_map] at hpairs
  refine .of_map (fun a => (a, ViewKind.list)) ?_
  rw [List.map_map]
  exact hpairs

section

variable {ε : Type} {models : List Model} {previous : Manifest} {render : Renderings ε}
  {extension : String} {views : List RenderedView}

/-- Wherever the output root is, no two views stand at one place exactly if no two models have one name in
lower case. -/
theorem nodup_places_iff (hnames : ∀ model ∈ models, Path.IsName model.name)
    (hext : '/' ∉ extension.toList)
    (h : List.Forall₂ (RenderedView.Shows previous render extension) (viewsOf models) views)
    (output : Path) (current : Location) :
    (views.map (·.place output current)).Nodup ↔
      (models.map fun model => Text.lower model.name).Nodup := by
  constructor
  · intro hplaces
    -- A place is made of the name in lower case and the kind.
    have hkeys : (views.map fun view => (Text.lower view.model, view.kind)).Nodup := by
      refine .of_map (fun key => output.resolve current ++
        ["routes", key.1, Text.lower key.2.name ++ "." ++ extension]) ?_
      rw [map_place_of_shows output hnames hext h] at hplaces
      rw [List.map_map]
      exact hplaces
    rw [map_lower_key_of_shows h] at hkeys
    exact nodup_of_nodup_viewsOf hkeys
  · intro hlower
    exact nodup_places_of_shows output ⟨hnames, hlower⟩ hext h current

end

/-! ## Views written -/

/-- The view is there under its path, with its own content. -/
def RenderedView.IsIntact (view : RenderedView) (output : Path) (w : World) : Prop :=
  w.disk.fileContent w.current (output.join view.path) = .ok view.content.toUTF8

/-- However the writing of views at places of their own ends, those written are intact. -/
theorem writeViews_intact {result : Reconciliation} {output : Path} {w : World}
    (hplaces : (result.views.map (·.place output w.current)).Nodup) :
    ∃ written rest ended later, result.changed = written ++ rest ∧
      WriteEnding output written rest ended ∧
      (∀ δ : Type, (writeViews result output : Job δ _) w =
        .ok ({ result with written := result.written ++ written.map (·.path) }, ended) later) ∧
      ∀ view ∈ written, view.IsIntact output later := by
  obtain ⟨later, hnoted, hwrite⟩ := writeViews_eq result output w
  obtain ⟨rest, hrest, hending⟩ :=
    writeEnding_writeAll w.current w.now output result.changed w.disk
  refine ⟨_, rest, _, later, hrest, hending, hwrite, fun view hm => ?_⟩
  rw [RenderedView.IsIntact, hnoted.disk, hnoted.current]
  exact writeAll_content (Reconciliation.nodup_map_changed hplaces) hm

namespace RunOptions

variable {options : RunOptions} {w : World} {view : RenderedView}

/-- However a real run ends that has got the lock, a view that it has written is intact, unless the manifest
or the lock file has come in its place. -/
theorem isIntact_written (hreal : options.dryRun = false) (hlocked : options.Locked w)
    (hnames : NamesApart (options.models w)) (hext : '/' ∉ options.extension.toList)
    (hm : view ∈ options.written w)
    (hmanifest : view.place options.output w.current ≠ options.manifestPath.resolve w.current)
    (hlock : view.place options.output w.current ≠ options.lock.place w.current) :
    view.IsIntact options.output ((run options).after w) := by
  have hends := options.run_ends w
  have hplaces : ∀ {result}, options.decision w = .ok result → ∀ current,
      (result.views.map (·.place options.output current)).Nodup := by
    intro result hdecided current
    obtain ⟨previous, views, -, -, hshows, rfl⟩ := exists_decided hdecided
    exact nodup_places_of_shows options.output hnames hext hshows current
  cases hrun : run options w with
  | ok r later =>
    rw [hrun] at hends
    rw [Job.after_of_ok hrun]
    cases hends with
    | rehearsed _ _ hdry =>
      rw [hreal] at hdry
      cases hdry
    | settled _ hsettled =>
      rw [hsettled.written] at hm
      exact hsettled.fileContent_changed (hplaces hsettled.decided w.current) hm hmanifest hlock
  | error fault later =>
    rw [hrun] at hends
    rw [Job.after_of_error hrun]
    cases hends with
    | refused hrefused =>
      obtain ⟨held, hacquired⟩ := hlocked.acquired
      rw [hrefused] at hacquired
      cases hacquired
    | undecided _ hdecided =>
      unfold written at hm
      rw [hdecided] at hm
      cases hm
    | @broken result _ done _ _ hdecided _ _ hdone hreleases =>
      -- What has been written is left alone but for the lock file, which goes away.
      have hwrote := fileContent_wrote hdecided (hplaces hdecided _) hm
      have hkeeps := (hdone.keeps.mono (Set.empty_subset _)).trans hreleases.keeps
      refine hkeeps.fileContent ?_ hwrote
      rw [hlocked.current_wrote]
      exact hlock

end RunOptions

/-! ## Collisions -/

/-- The text of the path of a view is made of the name of its model in lower case, the kind in lower case
and the extension, and two views have one path, or one text of it, exactly if they agree in the first two.
So the views of a reconciliation stand at places of their own exactly if no two names of models agree in
lower case.  Then all that are written are intact, however the writing ends, and so they are after a run,
where only the manifest and the lock file can have come in the place of one. -/
theorem views_collide_iff {extension : String} (hext : '/' ∉ extension.toList) :
    (∀ model other kind kind', Path.IsName model → Path.IsName other →
      (viewPath model kind extension).render =
        "routes/" ++ Text.lower model ++ "/" ++ Text.lower kind.name ++ "." ++ extension ∧
      (viewPath model kind extension = viewPath other kind' extension ↔
        Text.lower model = Text.lower other ∧ kind = kind') ∧
      ((viewPath model kind extension).render = (viewPath other kind' extension).render ↔
        Text.lower model = Text.lower other ∧ kind = kind')) ∧
    (∀ (ε : Type) models previous (render : Renderings ε) result output,
      (∀ model ∈ models, Path.IsName model.name) →
      reconcileAll models previous render extension = .ok result →
      (∀ current, (result.views.map (·.place output current)).Nodup ↔
        (models.map fun model => Text.lower model.name).Nodup) ∧
      ((models.map fun model => Text.lower model.name).Nodup → ∀ w,
        ∃ written rest ended later, result.changed = written ++ rest ∧
          WriteEnding output written rest ended ∧
          (∀ δ : Type, (writeViews result output : Job δ _) w =
            .ok ({ result with written := result.written ++ written.map (·.path) }, ended) later) ∧
          ∀ view ∈ written, view.IsIntact output later)) ∧
    ∀ (options : RunOptions) w, options.extension = extension → options.dryRun = false →
      options.Locked w → NamesApart (options.models w) →
      (∀ r later, run options w = .ok r later → options.written w = r.changed) ∧
      ∀ view ∈ options.written w,
        view.place options.output w.current ≠ options.manifestPath.resolve w.current →
        view.place options.output w.current ≠ options.lock.place w.current →
        view.IsIntact options.output ((run options).after w) := by
  refine ⟨?_, ?_, ?_⟩
  · intro model other kind kind' hmodel hother
    refine ⟨render_viewPath hmodel hext, viewPath_eq_iff hmodel hother hext, ?_⟩
    rw [Path.render_inj (isPart_of_mem_viewPath hmodel hext) (isPart_of_mem_viewPath hother hext)]
    exact viewPath_eq_iff hmodel hother hext
  · intro ε models previous render result output hnames hresult
    obtain ⟨views, hshows, rfl⟩ := reconcileAll_eq_ok hresult
    have hplaces := nodup_places_iff hnames hext hshows output
    exact ⟨hplaces, fun hlower w => writeViews_intact ((hplaces w.current).mpr hlower)⟩
  · rintro options w rfl hreal hlocked hnames
    refine ⟨fun r later hrun => ?_, fun view hm hmanifest hlock =>
      RunOptions.isIntact_written hreal hlocked hnames hext hm hmanifest hlock⟩
    obtain ⟨result, done, hsettled, rfl⟩ := RunOptions.run_settled hreal hrun
    exact hsettled.written

/-- The world of the small run with a schema of two models and with templates that are all empty. -/
def World.sigmas : World :=
  let schema := "model ΑΣ \x7b\n  x Int\n\x7d\nmodel ασ \x7b\n  x Int\n\x7d\n"
  { World.small with
    disk := (Disk.small.put ["schema"] (.file schema.toUTF8 0)).put ["templates", "List.j2"]
      (.file "".toUTF8 0) }

/-- The small run with an extension that holds a dot. -/
def RunOptions.dotted : RunOptions :=
  RunOptions.small.withExtension "d.tsx"

theorem run_sigmas :
    ((run .dotted).succeeds .sigmas &&
      (RunOptions.dotted.models .sigmas).map (·.name) == ["ΑΣ", "ασ"] &&
      (RunOptions.dotted.written .sigmas).length == 10 &&
      (RunOptions.dotted.written .sigmas).all fun view =>
        view.place RunOptions.dotted.output World.sigmas.current !=
            RunOptions.dotted.manifestPath.resolve World.sigmas.current &&
          view.place RunOptions.dotted.output World.sigmas.current !=
            RunOptions.dotted.lock.place World.sigmas.current) = true := by
  decide +kernel

theorem lower_sigmas :
    Text.lower "ΑΣ" = "ας" ∧ Text.lower "ας" = "ας" ∧ Text.lower "ασ" = "ασ" := by
  decide +kernel

theorem namesApart_sigmas {models : List Model} (h : models.map (·.name) = ["ΑΣ", "ασ"]) :
    NamesApart models := by
  obtain ⟨hcapital, -, hmedial⟩ := lower_sigmas
  refine namesApart_of_map_name h (by decide) ?_
  rw [List.map_cons, List.map_singleton, hcapital, hmedial]
  decide

/-- At the end of a word a capital sigma is lowered to its final form, and elsewhere to another.  So `ΑΣ`
collides with `ας` and not with `ασ`, and a run on models named `ΑΣ` and `ασ` leaves ten views intact. -/
theorem views_collide_iff_sigmas :
    let render : Renderings Unit := fun _ _ model => .ok model.name
    (viewPath "ΑΣ" .list "d.tsx").render = "routes/ας/list.d.tsx" ∧
    viewPath "ΑΣ" .list "d.tsx" = viewPath "ας" .list "d.tsx" ∧
    (viewPath "ΑΣ" .list "d.tsx").render ≠ (viewPath "ασ" .list "d.tsx").render ∧
    (∃ result, reconcileAll [⟨"ΑΣ", []⟩, ⟨"ας", []⟩] .initial render "d.tsx" = .ok result ∧
      ¬ (result.views.map (·.place ⟨.root, ["out"]⟩ [])).Nodup) ∧
    (∃ result written later,
      reconcileAll [⟨"ΑΣ", []⟩, ⟨"ασ", []⟩] .initial render "d.tsx" = .ok result ∧
      (writeViews result ⟨.root, ["out"]⟩ : Job Unit _) .bare = .ok written later ∧
      ∀ view ∈ result.changed, view.IsIntact ⟨.root, ["out"]⟩ later) ∧
    ∃ r, run .dotted .sigmas = .ok r ((run .dotted).after .sigmas) ∧ r.changed.length = 10 ∧
      ∀ view ∈ r.changed, view.IsIntact RunOptions.dotted.output ((run .dotted).after .sigmas) := by
  intro render
  obtain ⟨hcapital, hfinal, hmedial⟩ := lower_sigmas
  have hext : '/' ∉ "d.tsx".toList := by decide
  obtain ⟨hpaths, hviews, hruns⟩ := views_collide_iff hext
  refine ⟨?_, ?_, ?_, ?_, ?_, ?_⟩
  · rw [(hpaths "ΑΣ" "ΑΣ" .list .list (by decide) (by decide)).1, hcapital]
    decide
  · refine (hpaths "ΑΣ" "ας" .list .list (by decide) (by decide)).2.1.mpr ⟨?_, rfl⟩
    rw [hcapital, hfinal]
  · intro he
    have hlower := ((hpaths "ΑΣ" "ασ" .list .list (by decide) (by decide)).2.2.mp he).1
    rw [hcapital, hmedial] at hlower
    exact absurd hlower (by decide)
  · obtain ⟨result, hresult⟩ :
        ∃ result, reconcileAll [⟨"ΑΣ", []⟩, ⟨"ας", []⟩] .initial render "d.tsx" = .ok result := ⟨_, rfl⟩
    refine ⟨result, hresult, fun hplaces => ?_⟩
    have hlower := ((hviews Unit _ _ render result _ (by decide) hresult).1 []).mp hplaces
    rw [List.map_cons, List.map_singleton, hcapital, hfinal] at hlower
    exact absurd hlower (by decide)
  · have hwrites :
        (reconcileAll [⟨"ΑΣ", []⟩, ⟨"ασ", []⟩] .initial render "d.tsx").toOption.any (fun result =>
          ((writeViews result ⟨.root, ["out"]⟩ : Job Unit _).result? .bare).any (·.2.isOk)) =
            true := by
      decide +kernel
    cases hresult : reconcileAll [⟨"ΑΣ", []⟩, ⟨"ασ", []⟩] .initial render "d.tsx" with
    | error fault =>
      rw [hresult] at hwrites
      cases hwrites
    | ok result =>
      obtain ⟨hisName, hnodup⟩ : NamesApart [⟨"ΑΣ", []⟩, ⟨"ασ", []⟩] := namesApart_sigmas rfl
      obtain ⟨written, rest, ended, later, hrest, hending, hwrite, hintact⟩ :=
        (hviews Unit _ _ render result ⟨.root, ["out"]⟩ hisName hresult).2 hnodup .bare
      refine ⟨result, _, later, rfl, hwrite Unit, ?_⟩
      rw [hresult, Except.toOption, Option.any_some, Job.result?_of_ok (hwrite Unit)] at hwrites
      cases hending with
      | complete =>
        rw [List.append_nil] at hrest
        rw [hrest]
        exact hintact
      | refused => cases hwrites
      | embeddedNul => cases hwrites
  · -- The general theorem says which views the run writes, so only their number and places are computed.
    have hfacts := run_sigmas
    simp only [Bool.and_eq_true, beq_iff_eq, List.all_eq_true, bne_iff_ne] at hfacts
    obtain ⟨⟨⟨hsucceeds, hmodels⟩, hlength⟩, hplaces⟩ := hfacts
    obtain ⟨r, hrun⟩ := Job.exists_of_succeeds hsucceeds
    obtain ⟨result, done, hsettled, -⟩ := RunOptions.run_settled rfl hrun
    obtain ⟨hchanged, hintact⟩ := hruns .dotted .sigmas rfl rfl hsettled.locked
      (namesApart_sigmas hmodels)
    refine ⟨r, hrun, ?_, fun view hm => ?_⟩
    · rw [← hchanged r _ hrun, hlength]
    · rw [← hchanged r _ hrun] at hm
      exact hintact view hm (hplaces view hm).1 (hplaces view hm).2

end ViewGen
