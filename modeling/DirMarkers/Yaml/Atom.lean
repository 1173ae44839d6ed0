import DirMarkers.Calendar
import DirMarkers.Decimal.Notation
import DirMarkers.Text.Digit
import DirMarkers.Text.Quoted

/-!
Atoms, the values of documents that have no parts: how diagnostics show and name them, when two of
them are the same key, and in which order keys are listed.
-/

namespace DirMarkers.Yaml

/-- A value without parts. -/
inductive Atom where
  | null
  | bool (b : Bool)
  | int (n : Int)
  | float (x : Float)
  /-- What differs from every number. Two of them are the same key if they have the same origin. -/
  | nan (origin : Nat)
  | string (s : String)
  | bytes (content : List UInt8)
  | date (d : Calendar.Date)
  | moment (m : Calendar.Moment)
deriving Inhabited

namespace Atom

-----------------------------------------------------------------------------------------
-- Text
-----------------------------------------------------------------------------------------

/-- The name of the type of an atom. -/
def typeName : Atom → String
  | .null => "NoneType"
  | .bool _ => "bool"
  | .int _ => "int"
  | .float _ | .nan _ => "float"
  | .string _ => "str"
  | .bytes _ => "bytes"
  | .date _ => "date"
  | .moment _ => "datetime"

def text : Atom → String
  | .null => "None"
  | .bool true => "True"
  | .bool false => "False"
  | .int n => toString n
  | .float x => Decimal.floatText x
  | .nan _ => "nan"
  | .string s => Text.quote s
  | .bytes content => Text.quoteBytes content
  | .date d => d.text
  | .moment m => m.text

/-- Whether an atom can be shown: a whole number may not have more digits than the limit. -/
def isShown : Atom → Bool
  | .int n => n.natAbs < Decimal.tenTo Text.digitLimit
  | _ => true

-----------------------------------------------------------------------------------------
-- Keys
-----------------------------------------------------------------------------------------

/-- What makes a key: truth values, whole numbers and other numbers are one kind, and so are
moments with a zone.
-/
inductive Key where
  | null
  /-- A number, in units of the least positive binary number. -/
  | number (units : Int)
  | infinity (negative : Bool)
  | nan (origin : Nat)
  | text (s : String)
  | bytes (content : List UInt8)
  | day (ordinal : Nat)
  /-- A moment without a zone. -/
  | civil (instant : Int)
  | universal (instant : Int)
deriving DecidableEq, Repr

/-- A finite binary number in units of the least positive one. -/
def floatUnits (x : Float) : Int :=
  let bits : Nat := x.toBits.toNat % Decimal.twoTo 63
  let fraction : Nat := bits % Decimal.twoTo 52
  let biased : Nat := bits / Decimal.twoTo 52
  let size : Nat := if biased = 0 then fraction
    else (Decimal.twoTo 52 + fraction) * Decimal.twoTo (biased - 1)
  if x.toBits.toNat < Decimal.twoTo 63 then size else -size

def intUnits (n : Int) : Int :=
  n * Int.ofNat (Decimal.twoTo 1074)

def key : Atom → Key
  | .null => .null
  | .bool b => .number (intUnits (if b then 1 else 0))
  | .int n => .number (intUnits n)
  | .float x => if x.isInf then .infinity (x < 0) else .number (floatUnits x)
  | .nan origin => .nan origin
  | .string s => .text s
  | .bytes content => .bytes content
  | .date d => .day d.ordinal
  | .moment m => if m.zone.isSome then .universal m.instant else .civil m.instant

/-- Whether one key comes before or with another; keys of different kinds do not compare. -/
def Key.le? : Key → Key → Option Bool
  | .number a, .number b => some (a ≤ b)
  | .number _, .infinity negative => some (!negative)
  | .infinity negative, .number _ => some negative
  | .infinity a, .infinity b => some (a || !b)
  | .nan _, .number _ | .nan _, .infinity _ | .number _, .nan _ | .infinity _, .nan _
  | .nan _, .nan _ => some true
  | .text a, .text b => some (a ≤ b)
  | .bytes a, .bytes b => some (a ≤ b)
  | .day a, .day b => some (a ≤ b)
  | .civil a, .civil b => some (a ≤ b)
  | .universal a, .universal b => some (a ≤ b)
  | _, _ => none

/-- Whether one atom comes before or with another in a list of keys. -/
def leKey (a b : Atom) : Bool :=
  (Key.le? a.key b.key).getD false

/-- Whether two atoms compare as keys. -/
def comparable (a b : Atom) : Bool :=
  (Key.le? a.key b.key).isSome

/-- Keys in their order; none if two of them do not compare. -/
def sortKeys? (keys : List Atom) : Option (List Atom) :=
  match keys with
  | [] => some []
  | [key] => some [key]
  | first :: rest =>
    if rest.all (comparable first) then some (keys.mergeSort leKey) else none

/-- Adds an entry to a mapping. A key that is there already keeps its place and its spelling, and
gets the new value.
-/
def addEntry {α : Type} (entries : List (Atom × α)) (key : Atom) (value : α) : List (Atom × α) :=
  if entries.any fun entry => entry.1.key = key.key then
    entries.map fun entry => if entry.1.key = key.key then (entry.1, value) else entry
  else entries ++ [(key, value)]

/-- The mapping of some entries, in which a later entry of the same key counts. -/
def mappingOf {α : Type} (entries : List (Atom × α)) : List (Atom × α) :=
  entries.foldl (fun mapping (key, value) => addEntry mapping key value) []

end Atom

end DirMarkers.Yaml
