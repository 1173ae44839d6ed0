/-!
Strict UTF-8. Decoding succeeds exactly on the encodings of texts; on any other bytes it says
where the first fault is, which bytes belong to it, and what is wrong with them.
-/

namespace DirMarkers.Text.Utf8

/-- What is wrong with the bytes at a fault. -/
inductive Reason where
  /-- No character starts with this byte. -/
  | invalidStart
  /-- A character is begun, and the byte after the given ones cannot continue it. -/
  | invalidContinuation
  /-- A character is begun, and the bytes end before it does. -/
  | unexpectedEnd
deriving DecidableEq, Repr

def Reason.message : Reason → String
  | .invalidStart => "invalid start byte"
  | .invalidContinuation => "invalid continuation byte"
  | .unexpectedEnd => "unexpected end of data"

/-- The first fault of a byte sequence: its place, the bytes that belong to it, and the reason. -/
structure Fault where
  offset : Nat
  first : UInt8
  more : Nat
  reason : Reason
deriving DecidableEq, Repr

/-- Two lower case hexadecimal digits. -/
def hexByte (b : UInt8) : String :=
  String.ofList [Nat.digitChar (b.toNat / 16), Nat.digitChar (b.toNat % 16)]

/-- The report of a fault: a single byte is shown, a longer run is given by its positions. -/
def Fault.message (f : Fault) : String :=
  if f.more = 0 then
    "'utf-8' codec can't decode byte 0x" ++ hexByte f.first ++ " in position "
      ++ toString f.offset ++ ": " ++ f.reason.message
  else
    "'utf-8' codec can't decode bytes in position " ++ toString f.offset ++ "-"
      ++ toString (f.offset + f.more) ++ ": " ++ f.reason.message

/-- How many bytes follow a first byte, and which values the first of them may have; `none` when
no character starts with the byte.
-/
def shape (b : UInt8) : Option (Nat × UInt8 × UInt8) :=
  if b < 0x80 then some (0, 0x80, 0xBF)
  else if b < 0xC2 then none
  else if b < 0xE0 then some (1, 0x80, 0xBF)
  else if b = 0xE0 then some (2, 0xA0, 0xBF)
  else if b = 0xED then some (2, 0x80, 0x9F)
  else if b < 0xF0 then some (2, 0x80, 0xBF)
  else if b = 0xF0 then some (3, 0x90, 0xBF)
  else if b < 0xF4 then some (3, 0x80, 0xBF)
  else if b = 0xF4 then some (3, 0x80, 0x8F)
  else none

/-- Looks for `more` continuation bytes, the first between `low` and `high`. `seen` counts those
already found. Returns the bytes after the character, or how many were good and the reason.
-/
def continuation (more : Nat) (low high : UInt8) (seen : Nat)
    : List UInt8 → Except (Nat × Reason) (List UInt8)
  | bytes =>
    match more, bytes with
    | 0, rest => .ok rest
    | _ + 1, [] => .error (seen, .unexpectedEnd)
    | n + 1, b :: rest =>
      if low ≤ b && b ≤ high then continuation n 0x80 0xBF (seen + 1) rest
      else .error (seen, .invalidContinuation)

/-- The first fault of a byte sequence, if it has one. Every step consumes at least one of the
`budget` bytes.
-/
def firstFault (budget : Nat) (offset : Nat) : List UInt8 → Option Fault
  | [] => none
  | b :: rest =>
    match budget, shape b with
    | 0, _ => none
    | _ + 1, none => some ⟨offset, b, 0, .invalidStart⟩
    | n + 1, some (more, low, high) =>
      match continuation more low high 0 rest with
      | .ok rest => firstFault n (offset + more + 1) rest
      | .error (seen, reason) => some ⟨offset, b, seen, reason⟩

/-- Decodes bytes that are the encoding of a text, and reports the first fault of any others. -/
def decode (bytes : ByteArray) : Except Fault String :=
  match String.fromUTF8? bytes with
  | some s => .ok s
  | none =>
    .error ((firstFault bytes.size 0 bytes.data.toList).getD
      ⟨0, 0, 0, .unexpectedEnd⟩)

/-- Whether a fault concerns only the last bytes, which could be the start of a character. -/
def Fault.isPending (f : Fault) (bytes : ByteArray) : Bool :=
  f.reason = .unexpectedEnd
    || (f.first = 0xED && f.reason = .invalidContinuation && f.more = 0
      && f.offset + 2 = bytes.size
      && (bytes.data.toList.drop (f.offset + 1)).all fun b => 0xA0 ≤ b && b < 0xC0)

/-- The encoding of a text is one of that text, by the validity that every text carries. -/
theorem fromUTF8?_toUTF8 (s : String) : String.fromUTF8? s.toUTF8 = some s := by
  rw [String.fromUTF8?, String.toUTF8_eq_toByteArray, dif_pos s.isValidUTF8]
  rfl

/-- Decoding gives back an encoded text. -/
@[simp] theorem decode_toUTF8 (s : String)
    : decode s.toUTF8 = .ok s := by
  rw [decode, fromUTF8?_toUTF8]

end DirMarkers.Text.Utf8
