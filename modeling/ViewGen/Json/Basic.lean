import ViewGen.Number.Shortest
import ViewGen.Text.Quoted
import ViewGen.Text.Units

/-!
# JSON values

What they hold, and how texts and numbers are written: with ASCII characters only.
-/

namespace ViewGen

/-- A JSON value. The members of an object stand as they were written: a name can occur twice, and
then its last occurrence counts. -/
inductive Json where
  | null
  | bool (value : Bool)
  | integer (value : Int)
  | real (value : Binary64)
  | text (value : Units)
  | array (items : List Json)
  | object (members : List (Units × Json))
deriving Repr

namespace Json

/-- The last member of that name. -/
def lookup (name : Units) (members : List (Units × Json)) : Option Json :=
  (members.reverse.find? (·.1 == name)).map (·.2)

/-- The member of an object; other values have none. -/
def member? (value : Json) (name : String) : Option Json :=
  match value with
  | .object members => lookup (.ofString name) members
  | _ => none

def ofString (s : String) : Json :=
  .text (.ofString s)

/-! ### Writing -/

/-- A unit of a text between quotes: everything but printable ASCII is escaped. -/
def unitText (u : UInt16) : List Char :=
  if u = 0x22 then ['\\', '"']
  else if u = 0x5C then ['\\', '\\']
  else if u = 0x0A then ['\\', 'n']
  else if u = 0x0D then ['\\', 'r']
  else if u = 0x09 then ['\\', 't']
  else if u = 0x0C then ['\\', 'f']
  else if u = 0x08 then ['\\', 'b']
  else if 0x20 ≤ u && u < 0x7F then [Char.ofNat u.toNat]
  else '\\' :: 'u' :: Text.hexDigits 4 u.toNat

def textLiteral (t : Units) : List Char :=
  '"' :: t.values.flatMap unitText ++ ['"']

/-- A number; infinity and what is no number have words of their own. -/
def realText : Binary64 → String
  | .notANumber => "NaN"
  | .infinite negative => if negative then "-Infinity" else "Infinity"
  | x => x.text

end Json

end ViewGen
