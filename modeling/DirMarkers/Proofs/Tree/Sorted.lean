import DirMarkers.Proofs.Tree.Skeleton

/-!
Trees whose entries are in order. Files that come and go keep the order of the entries of every
directory, whatever their names are.
-/

namespace DirMarkers.Node

/-- The entries of every directory are in the order of their names. -/
def IsSorted (tree : Node) : Prop :=
  ∀ location entries, tree.get? location = some (.dir entries) → entries.Pairwise (·.1 < ·.1)

theorem WellFormed.isSorted {tree : Node} (h : tree.WellFormed) : tree.IsSorted :=
  fun _ _ there => (h.orderly there).increasing

namespace IsSorted

variable {tree : Node} {around : Location} {entries : Entries}

theorem child (h : (Node.dir entries).IsSorted) {name : String} {node : Node}
    (found : Entries.find? entries name = some node)
    : node.IsSorted := by
  intro location below there
  refine h (name :: location) below ?_
  rw [get?_cons, Node.entries, found]
  exact there

/-- An amended tree is sorted if the amended directory is, by induction on the way to it. -/
theorem amend (h : tree.IsSorted) {change : Entries → Entries}
    (there : tree.get? around = some (.dir entries))
    (changed : (Node.dir (change entries)).IsSorted)
    : (tree.amend change around).IsSorted := by
  induction around generalizing tree with
  | nil =>
      obtain rfl : tree = .dir entries := by simpa using there
      exact changed
  | cons first rest ih =>
      obtain ⟨outer, node, rfl, found, below⟩ := exists_child_of_get?_cons there
      have inside := ih (h.child found) below
      rw [amend_cons found]
      intro location others inSight
      cases location with
      | nil =>
          obtain rfl := Node.dir.inj (Option.some.inj inSight)
          exact Entries.increasing_put (h [] outer rfl) first _
      | cons name under =>
          rw [get?_cons, Node.entries, Entries.find?_put] at inSight
          split at inSight
          · exact inside under others inSight
          · next different =>
            refine h (name :: under) others ?_
            rw [get?_cons]
            exact inSight

/-- Putting a file into a directory keeps the order of all entries. -/
theorem put_file (h : tree.IsSorted) (there : tree.get? around = some (.dir entries))
    (name : String) (content : ByteArray)
    : (Node.put (.file content) tree (around ++ [name])).IsSorted := by
  rw [put_eq_amend there]
  refine h.amend there fun location others inSight => ?_
  cases location with
  | nil =>
      obtain rfl := Node.dir.inj (Option.some.inj inSight)
      exact Entries.increasing_put (h around entries there) name _
  | cons first rest =>
      rw [get?_cons, Node.entries, Entries.find?_put] at inSight
      split at inSight
      · cases rest <;> cases inSight
      · refine h (around ++ first :: rest) others ?_
        rw [get?_append, there, Option.bind_some, get?_cons]
        exact inSight

/-- Putting a file where a path leads to keeps the order of all entries. -/
theorem put_place (h : tree.IsSorted) {arrival : Arrival} {location : Location}
    (sound : arrival.IsSound tree) (place : arrival.place = .ok location) (content : ByteArray)
    : (Node.put (.file content) tree location).IsSorted := by
  rcases Arrival.of_place place with ⟨old, rfl⟩ | ⟨around, name, rfl, rfl⟩
  · rcases List.eq_nil_or_concat location with rfl | ⟨around, name, rfl⟩
    · obtain rfl : tree = .file old := Option.some.inj sound
      intro location others inSight
      cases location <;> cases inSight
    · rw [List.concat_eq_append] at sound ⊢
      obtain ⟨entries, there, _⟩ := dir_of_get?_entry sound
      exact h.put_file there name content
  · obtain ⟨entries, there, _⟩ := sound
    exact h.put_file there name content

/-- Erasing an entry of a directory keeps the order of all entries. -/
theorem erase_entry (h : tree.IsSorted) (there : tree.get? around = some (.dir entries))
    (name : String)
    : (tree.erase (around ++ [name])).IsSorted := by
  rw [erase_eq_amend there]
  refine h.amend there fun location others inSight => ?_
  cases location with
  | nil =>
      obtain rfl := Node.dir.inj (Option.some.inj inSight)
      exact (h around entries there).sublist List.filter_sublist
  | cons first rest =>
      rw [get?_cons, Node.entries, Entries.find?_erase] at inSight
      split at inSight
      · cases inSight
      · refine h (around ++ first :: rest) others ?_
        rw [get?_append, there, Option.bind_some, get?_cons]
        exact inSight

end IsSorted

end DirMarkers.Node
