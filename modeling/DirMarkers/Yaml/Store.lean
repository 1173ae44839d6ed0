import DirMarkers.Yaml.Value

/-!
Collections that are shared. The parts of a collection are atoms and other collections, which are
known by their numbers; so a collection may be a part of several others, and of itself. What is
shown of such a collection ends where it comes back to itself.
-/

namespace DirMarkers.Yaml

/-- A part of a collection. -/
inductive Item where
  | atom (a : Atom)
  | collection (number : Nat)
deriving Inhabited

/-- A collection of parts. -/
inductive Collection where
  | sequence (items : List Item)
  | pairs (items : List (Item × Item))
  | mapping (entries : List (Atom × Item))
  | set (items : List Atom)
deriving Inhabited

namespace Collection

/-- The name of the type of a collection. -/
def typeName : Collection → String
  | .sequence _ | .pairs _ => "list"
  | .mapping _ => "dict"
  | .set _ => "set"

/-- Whether a collection keeps its parts in a sequence. -/
def isSequence : Collection → Bool
  | .sequence _ | .pairs _ => true
  | .mapping _ | .set _ => false

end Collection

/-- Collections by their numbers. -/
abbrev Store := Array Collection

namespace Store

/-- The value of a part inside the collections with the given numbers, if it can be shown with so
many levels. The first part that cannot be shown counts.
-/
def valueWithin (store : Store) (levels : Nat) (around : List Nat) (item : Item)
    : Except Obstacle Value :=
  match levels, item with
  | 0, _ => .error .depth
  | levels + 1, .atom a => .atom <$> a.shownWithin (levels + 1)
  | levels + 1, .collection number =>
    let part := valueWithin store levels (number :: around)
    match store[number]? with
    | none => .ok .null
    | some collection =>
      if around.contains number then .ok (.again collection.isSequence)
      else
        match collection with
        | .sequence items => .sequence <$> items.mapM part
        | .pairs items => .pairs <$> items.mapM fun (first, second) =>
          match levels with
          | 0 => .error .depth
          | levels + 1 => do
            let part := valueWithin store levels (number :: around)
            return (← part first, ← part second)
        | .mapping entries => .mapping <$> entries.mapM fun (key, item) => do
          return (← key.shownWithin levels, ← part item)
        | .set items => .set <$> items.mapM (Atom.shownWithin (levels - 1))

/-- The value of a part, if it can be shown. -/
def value (store : Store) (item : Item) : Except Obstacle Value :=
  valueWithin store shownDepth [] item

end Store

end DirMarkers.Yaml
