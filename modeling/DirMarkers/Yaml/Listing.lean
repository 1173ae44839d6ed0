import DirMarkers.Yaml.Atom

/-!
The order in which a set of numbers lists its members. Each member has a slot in a table: the one
that the remainder of the number asks for, or where that is taken, one that is found from there. The
members of any other set are listed as they came.
-/

namespace DirMarkers.Yaml.Listing

/-- The prime number modulo which numbers have remainders. -/
def modulus : Nat :=
  Decimal.twoTo 61 - 1

/-- The remainder of a number of units. A unit is two to the minus 1074, which is two to the 24 by
the modulus. The remainder minus one is not used.
-/
def remainder (units : Int) : Int :=
  let size := Int.ofNat (units.natAbs % modulus * Decimal.twoTo 24 % modulus)
  let signed := if units < 0 then -size else size
  if signed = -1 then -2 else signed

/-- The number that a key asks for a slot with, if it is a number. -/
def hash? : Atom.Key → Option Int
  | .number units => some (remainder units)
  | .infinity negative => some (if negative then -314159 else 314159)
  | _ => none

abbrev Table := Array (Option Atom)

/-- A table for so many members: eight slots for up to four of them, and otherwise more than twice
as many slots as members, by a power of two.
-/
def tableFor (count : Nat) : Table :=
  let size := if count < 5 then 8 else max 8 (Decimal.twoTo ((2 * count).log2 + 1))
  Array.replicate size none

/-- The slots that are looked at from one on: ten in a row, or only that one near the end. -/
def window (table : Table) (slot : Nat) : List Nat :=
  if slot + 10 ≤ table.size then (List.range 10).map (slot + ·) else [slot]

def isFree (table : Table) (slot : Nat) : Bool :=
  (table.getD slot none).isNone

/-- A free slot, from one on. The rest of the number has a say in where to look next. -/
def freeSlot (fuel : Nat) (table : Table) (slot rest : Nat) : Nat :=
  match fuel, (window table slot).find? (isFree table) with
  | _, some free => free
  | 0, none => slot
  | fuel + 1, none =>
    let rest := rest / 32
    freeSlot fuel table ((slot * 5 + 1 + rest) % table.size) rest

def place (table : Table) (member : Atom × Int) : Table :=
  let rest := (member.2 % Int.ofNat (Decimal.twoTo 64)).toNat
  table.setIfInBounds (freeSlot (table.size + 16) table (rest % table.size) rest) (some member.1)

/-- The members of a set in the order in which it lists them. -/
def ofMembers (members : List Atom) : List Atom :=
  match members.mapM fun member => (hash? member.key).map fun hash => (member, hash) with
  | some hashed => (hashed.foldl place (tableFor hashed.length)).toList.filterMap id
  | none => members

end DirMarkers.Yaml.Listing
