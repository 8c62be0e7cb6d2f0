import ViewGen.Console.Table
import ViewGen.Template.Source

/-!
# Embedded libraries

What the program runs with where nothing else is at hand: templates of a directory in the language of
the bundled ones, a console without colours that is as wide as what it shows, and numbered names for
temporary files. They answer as the usual libraries do as far as templates keep to that language and
markup to styles. Nothing is said of the program that depends on them.
-/

namespace ViewGen

/-- Looks up and loads a template. In a directory only a file counts, whatever else stands under the
template's name and however the search for it fails. -/
def TemplateEngine.embedded : TemplateEngine := fun disk current _ place name =>
  let path := place.joinName name
  match disk.isFile current path, disk.readText current path with
  | .ok true, .ok text => Template.load text
  | .ok true, .error (.encoding cause) => .error ⟨.other, "UnicodeDecodeError", cause.message⟩
  | _, _ => .error ⟨.templateNotFound, "TemplateNotFound", name⟩

/-- The text of lines, each with its end. -/
def Text.ofLines (lines : List (List Char)) : String :=
  String.ofList (lines.flatMap (· ++ ['\n']))

def Console.uncoloured : Console where
  read := Markup.plain?
  escape := Markup.escape
  line s := Text.ofLines ((Text.pieces '\n' s).map (Layout.expandTabs 0))
  table t := Text.ofLines t.lines

theorem Text.length_hexDigits (width n : Nat) : (hexDigits width n).length = width := by
  induction width generalizing n with
  | zero => rfl
  | succ width ih => rw [hexDigits, List.length_append, ih, List.length_singleton]

theorem Text.isLower_or_isDigit_of_mem_hexDigits {width n : Nat} {c : Char}
    (h : c ∈ hexDigits width n) : c.isLower ∨ c.isDigit := by
  induction width generalizing n with
  | zero => exact nomatch h
  | succ width ih =>
    rw [hexDigits, List.mem_append, List.mem_singleton] at h
    obtain hbefore | rfl := h
    · exact ih hbefore
    · have hlast : ∀ digit < 16, digit.digitChar.isLower ∨ digit.digitChar.isDigit := by decide
      exact hlast _ (Nat.mod_lt n (by decide))

/-- The last eight digits of a number as a name. -/
def RandomName.ofNat (n : Nat) : RandomName where
  text := String.ofList (Text.hexDigits 8 n)
  plain := by
    rw [String.length_ofList, String.toList_ofList]
    refine ⟨Text.length_hexDigits 8 n, fun c hc => ?_⟩
    obtain hlower | hdigit := Text.isLower_or_isDigit_of_mem_hexDigits hc
    · exact .inl hlower
    · exact .inr (.inl hdigit)

def Libraries.embedded : Libraries where
  engine := TemplateEngine.embedded
  console := .uncoloured
  randomNames := (List.range 100).map RandomName.ofNat

end ViewGen
