/-!
# UTF-8

Reading bytes as text, with the place and the reason where they are none.
-/

namespace ViewGen.Utf8

inductive Reason where
  | invalidStart
  | invalidContinuation
  | unexpectedEnd
deriving DecidableEq, Repr

/-- The first bytes that are no character: those from position `first` to `last`, of which `byte`
comes first. -/
structure Fault where
  first : Nat
  last : Nat
  byte : UInt8
  reason : Reason
deriving DecidableEq, Repr

/-- A character whose first bytes have been read: it began at `start` with `byte`, and `owed` bytes
are missing, of which the next one must lie between `low` and `high`. -/
structure Pending where
  start : Nat
  byte : UInt8
  owed : Nat
  low : UInt8
  high : UInt8
deriving DecidableEq, Repr

/-- The bytes owed after a first byte beyond ASCII. The second byte is confined further where the
character would be encoded too long, be half a surrogate pair or lie beyond the last code point. -/
def pending? (start : Nat) (byte : UInt8) : Option Pending :=
  if 0xC2 ≤ byte && byte ≤ 0xDF then some ⟨start, byte, 1, 0x80, 0xBF⟩
  else if byte = 0xE0 then some ⟨start, byte, 2, 0xA0, 0xBF⟩
  else if byte = 0xED then some ⟨start, byte, 2, 0x80, 0x9F⟩
  else if 0xE1 ≤ byte && byte ≤ 0xEF then some ⟨start, byte, 2, 0x80, 0xBF⟩
  else if byte = 0xF0 then some ⟨start, byte, 3, 0x90, 0xBF⟩
  else if byte = 0xF4 then some ⟨start, byte, 3, 0x80, 0x8F⟩
  else if 0xF1 ≤ byte && byte ≤ 0xF3 then some ⟨start, byte, 3, 0x80, 0xBF⟩
  else none

/-- The first fault among the bytes from position `pos` on. -/
def firstFault (pos : Nat) : Option Pending → List UInt8 → Option Fault
  | none, [] => none
  | some p, [] => some ⟨p.start, pos - 1, p.byte, .unexpectedEnd⟩
  | none, byte :: rest =>
    if byte < 0x80 then firstFault (pos + 1) none rest
    else match pending? pos byte with
      | none => some ⟨pos, pos, byte, .invalidStart⟩
      | some p => firstFault (pos + 1) (some p) rest
  | some p, byte :: rest =>
    if p.low ≤ byte && byte ≤ p.high then
      if p.owed = 1 then firstFault (pos + 1) none rest
      else firstFault (pos + 1) (some { p with owed := p.owed - 1, low := 0x80, high := 0xBF }) rest
    else some ⟨p.start, pos - 1, p.byte, .invalidContinuation⟩

/-- The text that the bytes encode. -/
def decode (bytes : ByteArray) : Except Fault String :=
  match String.fromUTF8? bytes with
  | some text => .ok text
  | none => .error ((firstFault 0 none bytes.toList).getD ⟨0, 0, 0, .invalidStart⟩)

def Reason.text : Reason → String
  | .invalidStart => "invalid start byte"
  | .invalidContinuation => "invalid continuation byte"
  | .unexpectedEnd => "unexpected end of data"

def Fault.message (fault : Fault) : String :=
  let place :=
    if fault.first = fault.last then
      let n := fault.byte.toNat
      "byte 0x" ++ String.ofList [Nat.digitChar (n / 16), Nat.digitChar (n % 16)] ++
        " in position " ++ toString fault.first
    else "bytes in position " ++ toString fault.first ++ "-" ++ toString fault.last
  "'utf-8' codec can't decode " ++ place ++ ": " ++ fault.reason.text

end ViewGen.Utf8
