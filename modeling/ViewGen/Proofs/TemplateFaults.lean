import ViewGen.Proofs.BundledViews
import ViewGen.Proofs.Escapes

/-!
# Faults of templates

An engine can raise anything, both when it loads a template and when the template shows a model.  What is
reported depends on which of the two it is: loading tells missing and malformed templates apart and knows of
nothing else, and after that everything which has to do with templates counts as a failure of the template.
The exceptions that remain escape.
-/

namespace ViewGen

/-- An exception escapes from rendering a template in a directory: it is raised while the template is loaded,
and tells neither that it is missing nor that it is malformed, or it is raised by the loaded template, and has
nothing to do with templates. -/
inductive TemplateEngine.Escapes (engine : TemplateEngine) (disk : Disk) (current : Location) (number : Nat)
    (place : Path) (kind : ViewKind) (model : Model) : Raised → Prop
  | loading {exception : Raised} :
    engine disk current number place kind.templateName = .error exception →
    exception.family = .template ∨ exception.family = .other →
    Escapes engine disk current number place kind model exception
  | rendering {template : LoadedTemplate} {exception : Raised} :
    engine disk current number place kind.templateName = .ok template →
    template model = .error exception → exception.family = .other →
    Escapes engine disk current number place kind model exception

namespace TemplateFault

variable {kind : ViewKind} {place : Path} {model : String} {exception : Raised}

theorem documented_iff {fault : TemplateFault} :
    (RunFault.template fault).Documented ↔ ∀ exception, fault ≠ .raised exception := by
  constructor
  · rintro h exception rfl
    cases h
  · intro h
    cases fault with
    | notFound kind directory => exact .missing
    | invalid kind line reason => exact .invalid
    | failed kind model reason => exact .failing
    | raised exception => exact absurd rfl (h exception)

theorem ofLoading_eq_raised {other : Raised} : ofLoading kind place exception = .raised other ↔
    exception = other ∧ (exception.family = .template ∨ exception.family = .other) := by
  unfold ofLoading
  cases exception.family <;> simp

theorem ofRendering_eq_raised {other : Raised} : ofRendering kind model exception = .raised other ↔
    exception = other ∧ exception.family = .other := by
  unfold ofRendering
  cases exception.family <;> simp

end TemplateFault

namespace TemplateSource

variable {engine : TemplateEngine} {disk : Disk} {current : Location} {number : Nat} {kind : ViewKind}
  {model : Model}

theorem render_eq_error {source : TemplateSource} {fault : TemplateFault} :
    source.render engine disk current number kind model = .error fault ↔
      (∃ exception, source.load engine disk current number kind = .error exception ∧
        .ofLoading kind source.place exception = fault) ∨
      ∃ template, source.load engine disk current number kind = .ok template ∧
        ∃ exception, template model = .error exception ∧
          .ofRendering kind model.name exception = fault := by
  unfold render
  cases source.load engine disk current number kind with
  | error exception => simp
  | ok template => simp [except_mapError_eq_error]

/-- The exceptions that rendering hands on are those that escape. -/
theorem render_eq_raised {place : Path} {exception : Raised} :
    (directory place).render engine disk current number kind model = .error (.raised exception) ↔
      engine.Escapes disk current number place kind model exception := by
  simp only [render_eq_error, TemplateFault.ofLoading_eq_raised, TemplateFault.ofRendering_eq_raised]
  constructor
  · rintro (⟨_, hload, rfl, hfamily⟩ | ⟨template, hload, _, hshow, rfl, hfamily⟩)
    · exact .loading hload hfamily
    · exact .rendering hload hshow hfamily
  · intro h
    cases h with
    | loading hload hfamily => exact Or.inl ⟨_, hload, rfl, hfamily⟩
    | rendering hload hshow hfamily => exact Or.inr ⟨_, hload, _, hshow, rfl, hfamily⟩

/-- Whatever the engine does, a view from a directory of templates is rendered or has a documented fault
exactly where no exception escapes, and undocumented are just the exceptions that do.  The bundled templates
always render. -/
theorem render_undocumented_iff (engine : TemplateEngine) (disk : Disk) (current : Location)
    (number : Nat) (kind : ViewKind) (model : Model) :
    (∃ content, bundled.render engine disk current number kind model = .ok content) ∧
    ∀ place,
      (∀ fault, ((directory place).render engine disk current number kind model = .error fault ∧
          ¬ (RunFault.template fault).Documented) ↔
        ∃ exception, fault = .raised exception ∧
          engine.Escapes disk current number place kind model exception) ∧
      (((∃ content, (directory place).render engine disk current number kind model = .ok content) ∨
          ∃ fault, (directory place).render engine disk current number kind model = .error fault ∧
            (RunFault.template fault).Documented) ↔
        ∀ exception, ¬ engine.Escapes disk current number place kind model exception) := by
  obtain ⟨content, hcontent⟩ := exists_bundled_content
  refine ⟨⟨_, hcontent engine disk current number kind model⟩, fun place => ⟨fun fault => ?_, ?_⟩⟩
  · simp only [TemplateFault.documented_iff, not_forall, not_not, ← render_eq_raised]
    constructor
    · rintro ⟨hrender, exception, rfl⟩
      exact ⟨exception, rfl, hrender⟩
    · rintro ⟨exception, rfl, hrender⟩
      exact ⟨hrender, exception, rfl⟩
  · simp only [TemplateFault.documented_iff, ← render_eq_raised]
    cases (directory place).render engine disk current number kind model with
    | ok content => simp
    | error fault => simp

/-- A directory of templates with one file in it. -/
def single (content : ByteArray) : Disk :=
  ⟨[(["t"], .directory 0), (["t", "List.j2"], .file content 0)]⟩

end TemplateSource

theorem Utf8.decode_stray : decode ⟨#[0xFF]⟩ = .error ⟨0, 0, 0xFF, .invalidStart⟩ := by
  have hbytes : (ByteArray.mk #[0xFF]).toList = [0xFF] := by decide +kernel
  have hinvalid : (ByteArray.mk #[0xFF]).validateUTF8 = false := by decide
  have hnone : String.fromUTF8? ⟨#[0xFF]⟩ = none := by
    rw [String.fromUTF8?, dif_neg]
    rw [← ByteArray.validateUTF8_eq_true_iff, hinvalid]
    decide
  rw [decode, hnone, hbytes]
  rfl

namespace Template

/-- A template that puts a misspelt attribute through a filter. -/
def misspelt : String :=
  Bundled.ofLines ["\x7b\x7b model.nmae | snake_case \x7d\x7d"]

/-- Whether a template begins with showing an expression. -/
def shows (shown : Expr → Bool) : Except Nat Template → Bool
  | .ok ⟨.print e :: _⟩ => shown e
  | _ => false

theorem exists_of_shows {shown : Expr → Bool} {parsed : Except Nat Template}
    (h : shows shown parsed = true) : ∃ e rest, parsed = .ok ⟨.print e :: rest⟩ ∧ shown e = true := by
  unfold shows at h
  split at h
  · exact ⟨_, _, rfl, h⟩
  · cases h

theorem parse_misspelt : Text.withLineFeeds misspelt = misspelt ∧
    ∃ rest, parse misspelt =
      .ok ⟨.print (.filter (.attribute (.name "model") "nmae") .snakeCase 1) :: rest⟩ := by
  obtain ⟨chars, hspells, hplain, hshows⟩ :
      ∃ chars, Spells ["\x7b\x7b model.nmae | snake_case \x7d\x7d"] chars ∧ Text.Plain chars ∧
        shows (· = .filter (.attribute (.name "model") "nmae") .snakeCase 1)
          (ofTokens (Token.scan chars)) = true :=
    ⟨_, by repeat constructor, by decide, by decide⟩
  have hchars : misspelt.toList = chars := hspells.toList_ofLines
  constructor
  · rw [Text.withLineFeeds, hchars, Text.unifyBreaks_eq_self hplain, ← hchars, String.ofList_toList]
  · obtain ⟨e, rest, hparse, he⟩ := exists_of_shows hshows
    obtain rfl := of_decide_eq_true he
    exact ⟨rest, by rw [parse_eq_ofTokens, hchars, hparse]⟩

end Template

/-- A byte that begins no character escapes, and so does a misspelt attribute that is put through a filter. -/
theorem TemplateSource.render_undocumented_iff_single :
    ∃ undecodable notText : Raised,
      undecodable.kind = "UnicodeDecodeError" ∧ notText.kind = "TypeError" ∧
      (directory (.parse "t")).render .embedded (single ⟨#[0xFF]⟩) [] 0 .list ⟨"A", []⟩ =
        .error (.raised undecodable) ∧
      ¬ (RunFault.template (.raised undecodable)).Documented ∧
      (directory (.parse "t")).render .embedded (single Template.misspelt.toUTF8) [] 0 .list ⟨"A", []⟩ =
        .error (.raised notText) ∧
      ¬ (RunFault.template (.raised notText)).Documented := by
  have hfile (content : ByteArray) : (single content).fileContent []
      ((Path.parse "t").joinName ViewKind.list.templateName) = .ok content := rfl
  have hisFile (content : ByteArray) := Disk.isFile_of_fileContent (hfile content)
  have hescapes {content : ByteArray} {exception : Raised}
      (h : TemplateEngine.embedded.Escapes (single content) [] 0 (.parse "t") .list ⟨"A", []⟩ exception) :=
    (((render_undocumented_iff .embedded (single content) [] 0 .list ⟨"A", []⟩).2 (.parse "t")).1
      (.raised exception)).mpr ⟨exception, rfl, h⟩
  have hfails : TemplateEngine.embedded (single ⟨#[0xFF]⟩) [] 0 (.parse "t") ViewKind.list.templateName =
      .error ⟨.other, "UnicodeDecodeError", Utf8.Fault.message ⟨0, 0, 0xFF, .invalidStart⟩⟩ := by
    simp only [TemplateEngine.embedded, hisFile, Disk.readText, hfile, Utf8.decode_stray]
  obtain ⟨hundecodable, hundocumented⟩ := hescapes (.loading hfails (Or.inr rfl))
  obtain ⟨hplain, rest, hparse⟩ := Template.parse_misspelt
  have hload : TemplateEngine.embedded (single Template.misspelt.toUTF8) [] 0 (.parse "t")
      ViewKind.list.templateName = Template.load Template.misspelt := by
    simp only [TemplateEngine.embedded, hisFile, Disk.readText, hfile, Utf8.decode_toUTF8, hplain]
  rw [Template.load, hparse] at hload
  obtain ⟨hnotText, hundocumented'⟩ := hescapes (.rendering hload rfl rfl)
  exact ⟨_, _, rfl, rfl, hundecodable, hundocumented, hnotText, hundocumented'⟩

end ViewGen
