import DirMarkers.DirPath
import DirMarkers.Proofs.Tree.Amendment

/-!
Trees without some of their directories. Erasing a directory takes all that is below it away and
shows nowhere else; erasing some directories one after another leaves what a single pass leaves that
drops them wherever it comes to them.
-/

namespace DirMarkers

namespace DirPath

/-- Whether a directory is at or below one of some others. -/
def isWithin (tops : List DirPath) (dir : DirPath) : Bool :=
  tops.any (·.isPrefixOf dir)

theorem isWithin_eq_true {tops : List DirPath} {dir : DirPath}
    : dir.isWithin tops = true ↔ ∃ top ∈ tops, top <+: dir := by
  simp [isWithin]

theorem isWithin_of_mem {tops : List DirPath} {dir : DirPath} (top : dir ∈ tops)
    : dir.isWithin tops = true :=
  isWithin_eq_true.mpr ⟨dir, top, List.prefix_refl _⟩

/-- What is below a directory within some others is within them. -/
theorem isWithin_append {tops : List DirPath} {dir : DirPath} (within : dir.isWithin tops = true)
    (below : DirPath)
    : DirPath.isWithin tops (dir ++ below) = true := by
  obtain ⟨top, member, leads⟩ := isWithin_eq_true.mp within
  exact isWithin_eq_true.mpr ⟨top, member, leads.trans (List.prefix_append _ _)⟩

theorem isWithin_eq_false_above {tops : List DirPath} {dir below : DirPath}
    (outside : DirPath.isWithin tops (dir ++ below) = false)
    : dir.isWithin tops = false := by
  rw [← Bool.not_eq_true] at outside ⊢
  exact fun within => outside (isWithin_append within below)

/-- A subdirectory is outside of some directories if its parent is and it is none of them. -/
theorem isWithin_child_eq_false {tops : List DirPath} {dir : DirPath} {name : String}
    (outside : dir.isWithin tops = false) (left : dir.child name ∉ tops)
    : (dir.child name).isWithin tops = false := by
  rw [← Bool.not_eq_true, isWithin_eq_true] at outside ⊢
  rintro ⟨top, member, leads⟩
  rcases List.prefix_concat_iff.mp leads with rfl | above
  · exact left member
  · exact outside ⟨top, member, above⟩

section

variable (location : List String) (tops : List DirPath)

/-- The names that lead to all of them have no part in whether a directory is within some others. -/
theorem isWithin_map_append (dir : DirPath)
    : DirPath.isWithin (tops.map (location ++ ·)) (location ++ dir) = dir.isWithin tops := by
  rw [isWithin, List.any_map, isWithin, Bool.eq_iff_iff]
  simp [List.prefix_append_right_inj]

theorem isWithin_map_of_apart {place : List String} (apart : ¬ location <+: place)
    : DirPath.isWithin (tops.map (location ++ ·)) place = false := by
  rw [← Bool.not_eq_true, isWithin_eq_true]
  rintro ⟨_, member, leads⟩
  obtain ⟨top, _, rfl⟩ := List.mem_map.mp member
  exact apart ((List.prefix_append location top).trans leads)

theorem nil_not_mem_map (below : .root ∉ tops) : [] ∉ tops.map (location ++ ·) := by
  intro member
  obtain ⟨top, present, none⟩ := List.mem_map.mp member
  obtain ⟨_, rfl⟩ := List.append_eq_nil_iff.mp none
  exact below present

end

end DirPath

namespace Node

-----------------------------------------------------------------------------------------
-- Erasing
-----------------------------------------------------------------------------------------

/-- Removes what is at some locations, one after another. -/
def eraseAll (places : List Location) (tree : Node) : Node :=
  places.foldl Node.erase tree

/-- What is deeper than the entries of a directory is erased in the entry that leads there. -/
theorem erase_deep (entries : Entries) (name next : String) (rest : Location)
    : (Node.dir entries).erase (name :: next :: rest)
      = match Entries.find? entries name with
        | some child => .dir (Entries.put name (child.erase (next :: rest)) entries)
        | none => .dir entries :=
  rfl

/-- Erasing a node below a directory erases it in the entry that leads there. -/
theorem find?_erase_cons (entries : Entries) (name key : String) (rest : Location)
    : Entries.find? ((Node.dir entries).erase (name :: rest)).entries key
      = if key = name then
          if rest = [] then none else (Entries.find? entries name).map (·.erase rest)
        else Entries.find? entries key := by
  cases rest with
  | nil => exact Entries.find?_erase entries name key
  | cons next rest =>
      rw [erase_deep]
      cases found : Entries.find? entries name with
      | none =>
          by_cases here : key = name
          · rw [if_pos here, if_neg (List.cons_ne_nil _ _), here]
            exact found
          · rw [if_neg here]
            rfl
      | some child =>
          rw [Node.entries, Entries.find?_put, if_neg (List.cons_ne_nil _ _)]
          rfl

theorem kind_erase (node : Node) (place : Location) : (node.erase place).kind = node.kind := by
  cases node with
  | file _ => simp [erase]
  | link _ => simp [erase]
  | dir entries =>
      rcases place with _ | ⟨name, _ | ⟨next, rest⟩⟩
      · rfl
      · rfl
      · rw [erase_deep]
        cases Entries.find? entries name <;> rfl

/-- What is erased is missing, with all that was below it, and nothing else is. Witness: induction
on the way there.
-/
theorem kindAt_erase_within {place : Location} (below : place ≠ []) (tree : Node)
    (other : Location)
    : (tree.erase place).kindAt other = if place <+: other then none else tree.kindAt other := by
  induction place generalizing tree other with
  | nil => exact absurd rfl below
  | cons name rest ih =>
      cases other with
      | nil => simp [kindAt, kind_erase]
      | cons first more =>
          simp only [kindAt_cons, List.cons_prefix_cons]
          cases tree with
          | file _ => simp [erase, Node.entries, Entries.find?]
          | link _ => simp [erase, Node.entries, Entries.find?]
          | dir entries =>
              rw [find?_erase_cons]
              by_cases here : first = name
              · subst here
                simp only [if_true, true_and]
                by_cases last : rest = []
                · subst last
                  simp
                · rw [if_neg last, Node.entries]
                  cases Entries.find? entries first with
                  | none => simp
                  | some child => exact ih last child more
              · rw [if_neg here, if_neg fun h => here h.1.symm]
                rfl

theorem WellFormed.erase {tree : Node} (h : tree.WellFormed) (place : Location)
    : (tree.erase place).WellFormed := by
  induction place generalizing tree with
  | nil => cases tree <;> exact h
  | cons name rest ih =>
      cases tree with
      | file _ => exact trivial
      | link _ => exact trivial
      | dir entries =>
          obtain ⟨orderly, each⟩ := wellFormed_dir.mp h
          cases rest with
          | nil =>
              have kept : (Entries.erase entries name).Sublist entries := List.filter_sublist
              refine wellFormed_dir.mpr ⟨orderly.sublist kept, fun entry member => ?_⟩
              exact each entry (kept.subset member)
          | cons next rest =>
              rw [erase_deep]
              cases found : Entries.find? entries name with
              | none => exact h
              | some child =>
                  obtain ⟨named, short⟩ := orderly.names _ (Entries.mem_of_find? found)
                  refine wellFormed_dir.mpr ⟨orderly.put _ named short, fun entry member => ?_⟩
                  rcases Entries.mem_put member with rfl | old
                  · exact ih (h.child found)
                  · exact each entry old

theorem WellFormed.eraseAll {tree : Node} (h : tree.WellFormed) (places : List Location)
    : (tree.eraseAll places).WellFormed := by
  induction places generalizing tree with
  | nil => exact h
  | cons place rest ih => exact ih (h.erase place)

/-- When some places are erased, what is at or below them is missing, and nothing else is. -/
theorem kindAt_eraseAll {places : List Location} (below : [] ∉ places) (tree : Node)
    (place : Location)
    : (tree.eraseAll places).kindAt place
      = if DirPath.isWithin places place then none else tree.kindAt place := by
  induction places generalizing tree with
  | nil => rfl
  | cons first rest ih =>
      rw [List.mem_cons, not_or] at below
      rw [eraseAll, List.foldl_cons, ← eraseAll, ih below.2,
        kindAt_erase_within (Ne.symm below.1)]
      by_cases above : first <+: place
      · simp [DirPath.isWithin, above]
      · simp [DirPath.isWithin, above]

-----------------------------------------------------------------------------------------
-- Pruning
-----------------------------------------------------------------------------------------

mutual

/-- Leaves out some directories wherever they are below a directory. -/
def pruned (tops : List DirPath) : Node → DirPath → Node
  | .dir entries, around => .dir (prunedAmong tops entries around)
  | other, _ => other

/-- Leaves out some directories among the entries of a directory and below them. -/
def prunedAmong (tops : List DirPath) : List (String × Node) → DirPath → List (String × Node)
  | [], _ => []
  | (name, node) :: rest, around =>
    if around.child name ∈ tops then prunedAmong tops rest around
    else (name, node.pruned tops (around.child name)) :: prunedAmong tops rest around

end

section

variable {tops : List DirPath} {dir : DirPath}

theorem kind_pruned (node : Node) : (node.pruned tops dir).kind = node.kind := by
  cases node <;> rfl

theorem prunedAmong_eq (entries : List (String × Node))
    : prunedAmong tops entries dir
      = (entries.filter fun entry => dir.child entry.1 ∉ tops).map fun entry =>
          (entry.1, entry.2.pruned tops (dir.child entry.1)) := by
  induction entries with
  | nil => rfl
  | cons entry rest ih =>
      rw [prunedAmong, List.filter_cons]
      by_cases dropped : dir.child entry.1 ∈ tops
      · simp [dropped, ih]
      · simp [dropped, ih]

theorem WellFormed.pruned {node : Node} (h : node.WellFormed) (tops : List DirPath) (dir : DirPath)
    : (node.pruned tops dir).WellFormed := by
  induction node using Node.induction generalizing dir with
  | file _ => exact trivial
  | link _ => exact trivial
  | dir entries ih =>
      obtain ⟨orderly, each⟩ := wellFormed_dir.mp h
      have kept := orderly.sublist
        (List.filter_sublist (p := fun entry => decide (dir.child entry.1 ∉ tops)))
      rw [Node.pruned, prunedAmong_eq]
      refine wellFormed_dir.mpr ⟨⟨?_, List.pairwise_map.mpr kept.increasing⟩, ?_⟩
      · intro entry member
        obtain ⟨old, present, rfl⟩ := List.mem_map.mp member
        exact kept.names old present
      · intro entry member
        obtain ⟨old, present, rfl⟩ := List.mem_map.mp member
        have before := (List.mem_filter.mp present).1
        exact ih old before (each old before) _

/-- Of the entries that are left, each is found as before. -/
theorem find?_prunedAmong (entries : Entries) (key : String)
    : Entries.find? (prunedAmong tops entries dir) key
      = if dir.child key ∈ tops then none
        else (Entries.find? entries key).map (·.pruned tops (dir.child key)) := by
  induction entries with
  | nil => simp [prunedAmong, Entries.find?]
  | cons first rest ih =>
      obtain ⟨name, node⟩ := first
      rw [prunedAmong, Entries.find?_cons]
      by_cases here : key = name
      · subst here
        by_cases dropped : dir.child key ∈ tops
        · rw [if_pos dropped, ih, if_pos dropped, if_pos dropped]
        · rw [if_neg dropped, Entries.find?_cons, if_pos rfl, if_pos rfl, if_neg dropped]
          rfl
      · rw [if_neg here]
        by_cases dropped : dir.child name ∈ tops
        · rw [if_pos dropped, ih]
        · rw [if_neg dropped, Entries.find?_cons, if_neg here, ih]

/-- What is left at a place: everything but what is within the directories that are left out. -/
theorem kindAt_pruned (node : Node) (outside : dir.isWithin tops = false) (place : Location)
    : (node.pruned tops dir).kindAt place
      = if DirPath.isWithin tops (dir ++ place) then none else node.kindAt place := by
  induction place generalizing node dir with
  | nil => simp [kindAt, kind_pruned, outside]
  | cons name rest ih =>
      cases node with
      | file _ => simp [pruned, kindAt_cons, Node.entries, Entries.find?]
      | link _ => simp [pruned, kindAt_cons, Node.entries, Entries.find?]
      | dir entries =>
          rw [pruned, kindAt_cons, Node.entries, find?_prunedAmong, List.append_cons, kindAt_cons,
            Node.entries]
          by_cases dropped : dir.child name ∈ tops
          · have inside : DirPath.isWithin tops (dir ++ [name] ++ rest) = true :=
              DirPath.isWithin_eq_true.mpr ⟨_, dropped, List.prefix_append _ _⟩
            rw [if_pos dropped, if_pos inside]
            rfl
          · rw [if_neg dropped]
            cases Entries.find? entries name with
            | none => simp
            | some child => exact ih child (DirPath.isWithin_child_eq_false outside dropped)

/-- When some directories are erased, pruned nodes are left outside of them. -/
theorem WellFormed.get?_eraseAll {tree node : Node} (h : tree.WellFormed) {location : Location}
    (below : .root ∉ tops) (there : tree.get? (location ++ dir) = some node)
    (outside : dir.isWithin tops = false)
    : (tree.eraseAll (tops.map (location ++ ·))).get? (location ++ dir)
      = some (node.pruned tops dir) := by
  have kinds (dir : DirPath)
      : (tree.eraseAll (tops.map (location ++ ·))).kindAt (location ++ dir)
        = if dir.isWithin tops then none else tree.kindAt (location ++ dir) := by
    rw [kindAt_eraseAll (DirPath.nil_not_mem_map location tops below),
      DirPath.isWithin_map_append]
  cases found : (tree.eraseAll (tops.map (location ++ ·))).get? (location ++ dir) with
  | none =>
      have here := kinds dir
      rw [kindAt_eq_none.mpr found, outside, if_neg Bool.false_ne_true, kindAt, there] at here
      cases here
  | some other =>
      have again := (h.eraseAll _).at found
      refine congrArg some (again.ext ((h.at there).pruned tops dir) fun place => ?_)
      rw [kindAt_pruned node outside, ← kindAt_append found, ← kindAt_append there,
        List.append_assoc]
      exact kinds _

end

end Node

end DirMarkers
