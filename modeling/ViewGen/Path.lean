import ViewGen.Text.Separators

/-!
# Paths

A path names a place from the root or from wherever it is joined to.
-/

namespace ViewGen

/-- Where a path starts. Exactly two leading slashes are kept apart from one. -/
inductive Anchor where
  | relative
  | root
  | doubleRoot
deriving DecidableEq, Repr

/-- The names along a path, `..` among them, but neither `.` nor empty names. -/
structure Path where
  anchor : Anchor
  parts : List String
deriving DecidableEq, Repr

namespace Path

def anchorOf : List Char → Anchor
  | '/' :: '/' :: '/' :: _ => .root
  | '/' :: '/' :: _ => .doubleRoot
  | '/' :: _ => .root
  | _ => .relative

def parse (s : String) : Path :=
  { anchor := anchorOf s.toList
    parts := ((Text.pieces '/' s.toList).map String.ofList).filter fun part =>
      part != "" && part != "." }

/-- The path `other` seen from `base`; a path from the root stays what it is. -/
def join (base other : Path) : Path :=
  match other.anchor with
  | .relative => { base with parts := base.parts ++ other.parts }
  | _ => other

def joinName (base : Path) (name : String) : Path :=
  base.join (parse name)

/-- The path without its last name; a path without names is its own parent. -/
def parent (path : Path) : Path :=
  { path with parts := path.parts.dropLast }

def render (path : Path) : String :=
  match path.anchor, path.parts with
  | .relative, [] => "."
  | .relative, parts => "/".intercalate parts
  | .root, parts => "/" ++ "/".intercalate parts
  | .doubleRoot, parts => "//" ++ "/".intercalate parts

end Path

end ViewGen
