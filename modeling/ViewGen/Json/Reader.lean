import ViewGen.Json.Token

/-!
# Reading JSON

Tokens are read from left to right against the stack of arrays and objects that are still open.
-/

namespace ViewGen.Json

inductive Fault where
  /-- The text is no JSON value. -/
  | malformed
  /-- Too many arrays and objects are open at once. -/
  | tooDeep
deriving DecidableEq, Repr

/-- How many arrays and objects can be open at once. This is what the stack has room for where a text is
read, and there is always room for a manifest. -/
structure DepthLimit where
  count : Nat
  sufficient : 3 ≤ count
deriving DecidableEq, Repr

/-- An array or object that awaits a value, with its contents so far reversed, and for an object
the name of the member whose value comes next. -/
inductive Frame where
  | array (items : List Json)
  | object (members : List (Units × Json)) (name : Units)

/-- What may come next inside of the open frames. -/
inductive Awaiting where
  /-- A value; or the end of the array, if it has just been opened. -/
  | value (orClose : Bool)
  /-- The name of a member after the given ones; or the end of the object, if it has just been
  opened. -/
  | name (members : List (Units × Json)) (orClose : Bool)
  | colon (members : List (Units × Json)) (name : Units)
  /-- A comma or the end of the innermost frame, or of the text if none is open. -/
  | separator (last : Json)

/-- The open frames, innermost first, and what may come next. -/
structure State where
  frames : List Frame
  awaiting : Awaiting

namespace State

def start : State := ⟨[], .value false⟩

/-- The state `next` inside a new array or object, unless too many are open. -/
def opened (limit : DepthLimit) (state next : State) : Except Fault State :=
  if limit.count ≤ state.frames.length then .error .tooDeep else .ok next

/-- Reads one token. -/
def step (limit : DepthLimit) (state : State) (token : Token) : Except Fault State :=
  match state.awaiting, token with
  | .value _, .scalar value => .ok ⟨state.frames, .separator value⟩
  | .value _, .openArray => state.opened limit ⟨.array [] :: state.frames, .value true⟩
  | .value _, .openObject => state.opened limit ⟨state.frames, .name [] true⟩
  | .value true, .closeArray =>
    match state.frames with
    | .array _ :: frames => .ok ⟨frames, .separator (.array [])⟩
    | _ => .error .malformed
  | .name members _, .scalar (.text name) => .ok ⟨state.frames, .colon members name⟩
  | .name _ true, .closeObject => .ok ⟨state.frames, .separator (.object [])⟩
  | .colon members name, .colon => .ok ⟨.object members name :: state.frames, .value false⟩
  | .separator last, .comma =>
    match state.frames with
    | .array items :: frames => .ok ⟨.array (last :: items) :: frames, .value false⟩
    | .object members name :: frames => .ok ⟨frames, .name ((name, last) :: members) false⟩
    | [] => .error .malformed
  | .separator last, .closeArray =>
    match state.frames with
    | .array items :: frames => .ok ⟨frames, .separator (.array (last :: items).reverse)⟩
    | _ => .error .malformed
  | .separator last, .closeObject =>
    match state.frames with
    | .object members name :: frames =>
      .ok ⟨frames, .separator (.object ((name, last) :: members).reverse)⟩
    | _ => .error .malformed
  | _, _ => .error .malformed

/-- Reads all tokens, and stops at the first that cannot stand where it does. -/
def run (limit : DepthLimit) (state : State) : List Token → Except Fault State
  | [] => .ok state
  | token :: rest =>
    match state.step limit token with
    | .ok next => next.run limit rest
    | .error fault => .error fault

end State

/-- The value that the tokens make up. -/
def ofTokens (limit : DepthLimit) (tokens : List Token) : Except Fault Json :=
  match State.start.run limit tokens with
  | .error fault => .error fault
  | .ok ⟨[], .separator value⟩ => .ok value
  | .ok _ => .error .malformed

/-- Reads a text that is one JSON value. -/
def parse (limit : DepthLimit) (s : String) : Except Fault Json :=
  ofTokens limit (Token.scan s.toList)

end ViewGen.Json
