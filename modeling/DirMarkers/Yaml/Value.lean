import DirMarkers.Yaml.Atom

/-!
The values that a setting can have, how diagnostics show them, and why they may fail to.
-/

namespace DirMarkers.Yaml

/-- Why a value cannot be shown. -/
inductive Obstacle where
  /-- A whole number with too many digits. -/
  | digits
  /-- Values inside each other beyond all bounds. -/
  | depth
deriving DecidableEq, Repr

def Obstacle.message : Obstacle → String
  | .digits =>
    "Exceeds the limit (4300 digits) for integer string conversion; "
      ++ "use sys.set_int_max_str_digits() to increase the limit"
  | .depth => "maximum recursion depth exceeded while getting the repr of an object"

/-- How many values may be inside each other to be shown. -/
def shownDepth : Nat :=
  -- Calls may be a thousand deep. Every value takes one of them; the others are those around the
  -- outermost value.
  1000 - 13

/-- An atom, if it can be shown with so many levels. -/
def Atom.shownWithin (levels : Nat) (a : Atom) : Except Obstacle Atom :=
  if levels = 0 then .error .depth
  else if a.isShown then .ok a
  else .error .digits

/-- A value: an atom, or a collection with its parts. -/
inductive Value where
  | atom (a : Atom)
  | sequence (items : List Value)
  /-- Pairs in a sequence, which may repeat a key. -/
  | pairs (items : List (Value × Value))
  | mapping (entries : List (Atom × Value))
  | set (items : List Atom)
  /-- A sequence or mapping that is around this place. -/
  | again (isSequence : Bool)
deriving Inhabited

namespace Value

@[match_pattern] abbrev null : Value :=
  .atom .null

@[match_pattern] abbrev bool (b : Bool) : Value :=
  .atom (.bool b)

@[match_pattern] abbrev string (s : String) : Value :=
  .atom (.string s)

def bracketed (left right : String) (items : List String) : String :=
  left ++ ", ".intercalate items ++ right

mutual

def text : Value → String
  | .atom a => a.text
  | .sequence items => bracketed "[" "]" (texts items)
  | .pairs items => bracketed "[" "]" (pairTexts items)
  | .mapping entries => bracketed "\x7b" "\x7d" (entryTexts entries)
  | .set [] => "set()"
  | .set items => bracketed "\x7b" "\x7d" (items.map Atom.text)
  | .again true => "[...]"
  | .again false => "\x7b...\x7d"

def texts : List Value → List String
  | [] => []
  | value :: rest => text value :: texts rest

def pairTexts : List (Value × Value) → List String
  | [] => []
  | (first, second) :: rest => bracketed "(" ")" [text first, text second] :: pairTexts rest

/-- The texts of the entries of a mapping. -/
def entryTexts : List (Atom × Value) → List String
  | [] => []
  | (key, value) :: rest => (key.text ++ ": " ++ text value) :: entryTexts rest

end

/-- A value, if it can be shown with so many levels. The first part that cannot be shown counts. -/
def shownWithin (levels : Nat) (value : Value) : Except Obstacle Value :=
  match levels, value with
  | 0, _ => .error .depth
  | levels + 1, .atom a => .atom <$> a.shownWithin (levels + 1)
  | _ + 1, .again isSequence => .ok (.again isSequence)
  | levels + 1, .sequence items => .sequence <$> items.mapM (shownWithin levels)
  | levels + 1, .pairs items => .pairs <$> items.mapM fun (first, second) =>
    match levels with
    | 0 => .error .depth
    | levels + 1 => do return (← shownWithin levels first, ← shownWithin levels second)
  | levels + 1, .mapping entries => .mapping <$> entries.mapM fun (key, value) => do
    return (← key.shownWithin levels, ← shownWithin levels value)
  | levels + 1, .set items => .set <$> items.mapM (Atom.shownWithin (levels - 1))

/-- A value, if it can be shown. -/
def shown (value : Value) : Except Obstacle Value :=
  value.shownWithin shownDepth

end Value

end DirMarkers.Yaml
