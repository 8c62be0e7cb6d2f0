import ViewGen.Json.Basic
import ViewGen.Json.Reader
import ViewGen.Manifest.Basic
import ViewGen.Validation

/-!
# The manifest as JSON
-/

namespace ViewGen

namespace Json

/-- The member with the first of two names that the object has, and that name. -/
def either? (members : List (Units × Json)) (first second : String) : Option (String × Json) :=
  match lookup (.ofString first) members with
  | some value => some (first, value)
  | none => (lookup (.ofString second) members).map fun value => (second, value)

def checkText : Json → Checked Units
  | .text t => .ok t
  | _ => .fail .textExpected

end Json

namespace ManifestEntry

/-- A text that must be there. A problem with it is placed at the name it was found under. -/
def requiredText (members : List (Units × Json)) (first second : String) : Checked Units :=
  match Json.either? members first second with
  | some (name, value) => (Json.checkText value).at' name
  | none => Checked.at' first (.fail .missing)

def check : Json → Checked ManifestEntry
  | .object members =>
    Checked.both (fun (model, viewType) hash => ⟨model, viewType, hash⟩)
      (Checked.both (·, ·) (requiredText members "model" "model")
        (requiredText members "viewType" "view_type"))
      (requiredText members "hash" "hash")
  | _ => .fail .objectExpected

/-- An entry on lines of its own. -/
def lines (entry : ManifestEntry) : List Char :=
  "    \x7b\n      \"model\": ".toList ++ Json.textLiteral entry.model ++
    ",\n      \"viewType\": ".toList ++ Json.textLiteral entry.viewType ++
    ",\n      \"hash\": ".toList ++ Json.textLiteral entry.hash ++ "\n    \x7d".toList

end ManifestEntry

namespace Manifest

def checkEntries : Json → Checked (List ManifestEntry)
  | .array items => Checked.each ManifestEntry.check 0 items
  | _ => .fail .listExpected

/-- A manifest from data. What is absent has its initial value, and unknown members are ignored. -/
def check : Json → Checked Manifest
  | .object members =>
    let version := match Json.either? members "version" "version" with
      | some (name, value) => (Json.checkText value).at' name
      | none => .ok currentVersion
    let entries := match Json.either? members "generatedViews" "generated_views" with
      | some (name, value) => (checkEntries value).at' name
      | none => .ok []
    Checked.both Manifest.mk version entries
  | _ => .fail .objectExpected

/-- The entries, separated by commas. -/
def entryLines : List ManifestEntry → List Char
  | [] => []
  | [entry] => entry.lines
  | entry :: rest => entry.lines ++ ",\n".toList ++ entryLines rest

/-- The manifest as it is written: indented JSON in ASCII. -/
def render (manifest : Manifest) : String :=
  let entries :=
    if manifest.entries.isEmpty then "[]".toList
    else "[\n".toList ++ entryLines manifest.entries ++ "\n  ]".toList
  String.ofList <| "\x7b\n  \"version\": ".toList ++ Json.textLiteral manifest.version ++
    ",\n  \"generatedViews\": ".toList ++ entries ++ "\n\x7d".toList

end Manifest

end ViewGen
