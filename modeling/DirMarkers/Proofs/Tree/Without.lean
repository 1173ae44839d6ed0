import DirMarkers.Proofs.Tree.Likeness

/-!
Trees without the files of one name. Trees that are alike but for such files are equal when these
are left out.
-/

namespace DirMarkers

/-- Whether a kind is one of files. -/
def Kind.isFile : Kind → Bool
  | .file _ => true
  | _ => false

namespace Node

theorem isFile_kind (node : Node) : node.kind.isFile = node.isFile := by
  cases node <;> rfl

mutual

/-- Leaves out every file of a name. -/
def without (name : String) : Node → Node
  | .dir entries => .dir (withoutAmong name entries)
  | other => other

/-- Leaves out every file of a name among some entries and below them. -/
def withoutAmong (name : String) : List (String × Node) → List (String × Node)
  | [] => []
  | (key, node) :: rest =>
    if key = name ∧ node.isFile then withoutAmong name rest
    else (key, node.without name) :: withoutAmong name rest

end

theorem mem_withoutAmong {name : String} {entries : List (String × Node)} {entry : String × Node}
    (member : entry ∈ withoutAmong name entries)
    : ∃ node, (entry.1, node) ∈ entries ∧ entry.2 = node.without name := by
  induction entries with
  | nil => cases member
  | cons first rest ih =>
      obtain ⟨key, node⟩ := first
      rw [withoutAmong] at member
      split at member
      · obtain ⟨node, present, same⟩ := ih member
        exact ⟨node, List.mem_cons_of_mem _ present, same⟩
      · rcases List.mem_cons.mp member with rfl | later
        · exact ⟨node, List.mem_cons_self, rfl⟩
        · obtain ⟨node, present, same⟩ := ih later
          exact ⟨node, List.mem_cons_of_mem _ present, same⟩

/-- Orderly entries stay orderly when some are left out. -/
theorem orderly_withoutAmong {entries : Entries} (orderly : entries.Orderly) (name : String)
    : Entries.Orderly (withoutAmong name entries) where
  names := by
    intro entry member
    obtain ⟨node, present, _⟩ := mem_withoutAmong member
    exact orderly.names (_, node) present
  increasing := by
    have increasing := orderly.increasing
    induction entries with
    | nil => exact .nil
    | cons first rest ih =>
        obtain ⟨key, node⟩ := first
        obtain ⟨larger, tail⟩ := List.pairwise_cons.mp increasing
        rw [withoutAmong]
        split
        · exact ih orderly.tail tail
        · refine List.pairwise_cons.mpr ⟨fun entry member => ?_, ih orderly.tail tail⟩
          obtain ⟨node, present, _⟩ := mem_withoutAmong member
          exact larger (_, node) present

theorem WellFormed.without {node : Node} (h : node.WellFormed) (name : String)
    : (node.without name).WellFormed := by
  induction node using Node.induction with
  | file _ => exact trivial
  | link _ => exact trivial
  | dir entries ih =>
      obtain ⟨orderly, each⟩ := wellFormed_dir.mp h
      rw [Node.without]
      refine wellFormed_dir.mpr ⟨orderly_withoutAmong orderly name, fun entry member => ?_⟩
      obtain ⟨node, present, same⟩ := mem_withoutAmong member
      rw [same]
      exact ih _ present (each _ present)

/-- Of the entries that are left, each is found as before. Witness: no other entry has the name of
one that is left out.
-/
theorem find?_withoutAmong {entries : Entries} (orderly : entries.Orderly) (name key : String)
    : Entries.find? (withoutAmong name entries) key
      = (Entries.find? entries key).bind fun node =>
          if key = name ∧ node.isFile then none else some (node.without name) := by
  induction entries with
  | nil => rfl
  | cons first rest ih =>
      obtain ⟨other, node⟩ := first
      have tail := ih orderly.tail
      have above := (List.pairwise_cons.mp orderly.increasing).1
      rw [withoutAmong, Entries.find?_cons]
      by_cases here : key = other
      · subst here
        by_cases dropped : key = name ∧ node.isFile
        · rw [if_pos dropped, tail, Entries.find?_eq_none_of_lt above, if_pos rfl]
          simp [dropped]
        · rw [if_neg dropped, Entries.find?_cons, if_pos rfl, if_pos rfl]
          simp [dropped]
      · rw [if_neg here]
        by_cases dropped : other = name ∧ node.isFile
        · rw [if_pos dropped, tail]
        · rw [if_neg dropped, Entries.find?_cons, if_neg here, tail]

/-- What is left at a location: everything but a file of the name. -/
theorem kindAt_without {node : Node} (wellFormed : node.WellFormed) (name : String)
    (location : Location)
    : (node.without name).kindAt location
      = (node.kindAt location).bind fun kind =>
          if location.getLast? = some name ∧ kind.isFile then none else some kind := by
  induction location generalizing node with
  | nil => cases node <;> simp [Node.without, Node.kindAt, kind]
  | cons first rest ih =>
      cases node with
      | file _ => rfl
      | link _ => rfl
      | dir entries =>
          rw [Node.without, kindAt_cons, kindAt_cons, Node.entries, Node.entries,
            find?_withoutAmong (wellFormed_dir.mp wellFormed).1]
          cases found : Entries.find? entries first with
          | none => rfl
          | some child =>
              have below := ih (wellFormed.child found)
              simp only [Option.bind_some]
              by_cases dropped : first = name ∧ child.isFile
              · rw [if_pos dropped]
                cases child with
                | file content => cases rest <;> simp [dropped.1, Node.kindAt, get?_cons,
                    Node.entries, kind, Kind.isFile]
                | dir _ => cases dropped.2
                | link _ => cases dropped.2
              · rw [if_neg dropped, Option.bind_some, below]
                cases rest with
                | nil => simp [Node.kindAt, isFile_kind, dropped]
                | cons second rest => rw [List.getLast?_cons_cons]

/-- Trees that are alike but for the files of a name are equal without these. -/
theorem AlikeBut.without_eq {name : String} {left right : Node} (alike : AlikeBut name left right)
    (hl : left.WellFormed) (hr : right.WellFormed)
    : left.without name = right.without name := by
  refine (hl.without name).ext (hr.without name) fun location => ?_
  rw [kindAt_without hl, kindAt_without hr]
  rcases alike location with same | ⟨⟨around, rfl⟩, first, second⟩
  · rw [same]
  · have dropped {tree : Node} (file : tree.HoldsNoMoreThanFile (around ++ [name]))
        : ((tree.kindAt (around ++ [name])).bind fun kind =>
            if (around ++ [name]).getLast? = some name ∧ kind.isFile then none else some kind)
          = none := by
      cases found : tree.kindAt (around ++ [name]) with
      | none => rfl
      | some kind =>
          obtain ⟨content, rfl⟩ := file kind found
          simp [Kind.isFile]
    rw [dropped first, dropped second]

end Node

end DirMarkers
