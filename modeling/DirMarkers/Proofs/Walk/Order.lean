import DirMarkers.DirPath
import DirMarkers.Proofs.Tree.Amendment
import Mathlib.Data.List.Perm.Basic

/-!
The directories of a tree in post-order and in pre-order: each comes after those below it or before
them, and siblings come in the order of their names.
-/

namespace DirMarkers.Walk

mutual

/-- The directories of a tree, each after those below it, siblings in the order of their names. -/
def postOrder : Node → DirPath → List DirPath
  | .dir entries, dir => postOrderAll entries dir ++ [dir]
  | _, _ => []

/-- The directories among some entries and below them. -/
def postOrderAll : List (String × Node) → DirPath → List DirPath
  | [], _ => []
  | (name, node) :: rest, dir => postOrder node (dir.child name) ++ postOrderAll rest dir

end

theorem postOrder_dir (entries : Entries) (dir : DirPath)
    : postOrder (.dir entries) dir
      = (entries.flatMap fun entry => postOrder entry.2 (dir.child entry.1)) ++ [dir] := by
  have all (rest : List (String × Node))
      : postOrderAll rest dir
        = rest.flatMap fun entry => postOrder entry.2 (dir.child entry.1) := by
    induction rest with
    | nil => rfl
    | cons entry rest ih => rw [postOrderAll, ih, List.flatMap_cons]
  rw [postOrder, all]

/-- What is at or below a directory, by induction on the tree. -/
theorem mem_postOrder {node : Node} (wellFormed : node.WellFormed) {dir other : DirPath}
    : other ∈ postOrder node dir
      ↔ ∃ below, other = dir ++ below ∧ node.kindAt below = some .dir := by
  induction node using Node.induction generalizing dir with
  | file _ =>
      refine iff_of_false (fun member => nomatch member) ?_
      rintro ⟨below, _, isDir⟩
      cases below <;> cases isDir
  | link _ =>
      refine iff_of_false (fun member => nomatch member) ?_
      rintro ⟨below, _, isDir⟩
      cases below <;> cases isDir
  | dir entries ih =>
      obtain ⟨orderly, children⟩ := Node.wellFormed_dir.mp wellFormed
      rw [postOrder_dir, List.mem_append, List.mem_flatMap, List.mem_singleton]
      constructor
      · rintro (⟨⟨name, child⟩, present, deeper⟩ | rfl)
        · obtain ⟨below, rfl, isDir⟩ := (ih _ present (children _ present)).mp deeper
          refine ⟨name :: below, by simp [DirPath.child], ?_⟩
          rw [Node.kindAt_cons, Node.entries, orderly.find?_of_mem present]
          exact isDir
        · exact ⟨[], (List.append_nil _).symm, rfl⟩
      · rintro ⟨below, rfl, isDir⟩
        cases below with
        | nil => exact .inr (List.append_nil _)
        | cons name rest =>
            rw [Node.kindAt_cons] at isDir
            obtain ⟨child, found, inside⟩ := Option.bind_eq_some_iff.mp isDir
            have present := Entries.mem_of_find? found
            refine .inl ⟨_, present, (ih _ present (children _ present)).mpr ?_⟩
            exact ⟨rest, by simp [DirPath.child], inside⟩

/-- A directory comes before those above it, and before what is at or below a later sibling. -/
def Precedes (first next : DirPath) : Prop :=
  (∃ below, below ≠ [] ∧ first = next ++ below)
    ∨ ∃ above left right under beyond, left < right
      ∧ first = above ++ left :: under ∧ next = above ++ right :: beyond

theorem Precedes.ne {first next : DirPath} (h : Precedes first next) : first ≠ next := by
  rintro rfl
  rcases h with ⟨below, some, same⟩ | ⟨above, left, right, under, beyond, smaller, same, again⟩
  · exact some (List.self_eq_append_right.mp same)
  · have names := (List.cons.inj (List.append_cancel_left (same.symm.trans again))).1
    exact String.lt_irrefl left (names ▸ smaller)

/-- Two lists of names that part once do not part in the other order as well. -/
theorem not_parted_back {above beside : DirPath} {left right low high : String}
    {under beyond before after : DirPath} (smaller : left < right) (lower : low < high)
    (here : above ++ left :: under = beside ++ high :: after)
    : above ++ right :: beyond ≠ beside ++ low :: before := by
  intro there
  induction above generalizing beside with
  | nil =>
      cases beside with
      | nil =>
          obtain ⟨rfl, -⟩ := List.cons.inj here
          obtain ⟨rfl, -⟩ := List.cons.inj there
          exact String.lt_irrefl left (String.lt_trans smaller lower)
      | cons name rest =>
          obtain ⟨rfl, -⟩ := List.cons.inj here
          obtain ⟨rfl, -⟩ := List.cons.inj there
          exact String.lt_irrefl _ smaller
  | cons name above ih =>
      cases beside with
      | nil =>
          obtain ⟨rfl, -⟩ := List.cons.inj here
          obtain ⟨rfl, -⟩ := List.cons.inj there
          exact String.lt_irrefl _ lower
      | cons other rest => exact ih (List.cons.inj here).2 (List.cons.inj there).2

/-- Of two directories, at most one comes before the other, by cases on whether one is above the
other or they part.
-/
theorem Precedes.asymm {first next : DirPath} (h : Precedes first next)
    : ¬ Precedes next first := by
  have below {left above : DirPath} {low high : String} {under more beyond : DirPath}
      (smaller : low < high) (upper : left = above ++ low :: under)
      (lower : left ++ more = above ++ high :: beyond)
      : False := by
    rw [upper, List.append_assoc] at lower
    obtain ⟨same, -⟩ := List.cons.inj (List.append_cancel_left lower)
    exact String.lt_irrefl high (same ▸ smaller)
  rintro (⟨more, some, back⟩ | ⟨beside, low, high, before, after, lower, back, forth⟩)
  · rcases h with ⟨under, _, here⟩ | ⟨above, left, right, under, beyond, smaller, here, there⟩
    · rw [back, List.append_assoc] at here
      have none := List.append_eq_nil_iff.mp (List.self_eq_append_right.mp here)
      exact some none.1
    · exact below smaller here (back ▸ there)
  · rcases h with ⟨under, _, here⟩ | ⟨above, left, right, under, beyond, smaller, here, there⟩
    · exact below lower back (here ▸ forth)
    · exact not_parted_back smaller lower (here.symm.trans forth) (there.symm.trans back)

/-- Directories in their order are told by which they are. -/
theorem eq_of_precedes {left right : List DirPath} (hl : left.Pairwise Precedes)
    (hr : right.Pairwise Precedes) (same : ∀ dir, dir ∈ left ↔ dir ∈ right)
    : left = right := by
  have perm : left.Perm right :=
    (List.perm_ext_iff_of_nodup (hl.imp Precedes.ne) (hr.imp Precedes.ne)).mpr same
  exact perm.eq_of_pairwise (fun _ _ _ _ forth back => absurd back forth.asymm) hl hr

/-- All directories of a tree come in their order. Witness: those below different siblings differ
first at the names of the siblings, and the directory itself is above all of them.
-/
theorem postOrder_ordered {node : Node} (wellFormed : node.WellFormed) (dir : DirPath)
    : (postOrder node dir).Pairwise Precedes := by
  induction node using Node.induction generalizing dir with
  | file _ => exact .nil
  | link _ => exact .nil
  | dir entries ih =>
      obtain ⟨orderly, children⟩ := Node.wellFormed_dir.mp wellFormed
      have inside {entry : String × Node} (present : entry ∈ entries) {other : DirPath}
          (member : other ∈ postOrder entry.2 (dir.child entry.1))
          : ∃ below, other = dir ++ entry.1 :: below := by
        obtain ⟨below, rfl, _⟩ := (mem_postOrder (children entry present)).mp member
        exact ⟨below, by simp [DirPath.child]⟩
      rw [postOrder_dir, List.pairwise_append, List.pairwise_flatMap]
      refine ⟨⟨fun entry present => ih entry present (children entry present) _, ?_⟩,
        List.pairwise_singleton _ _, ?_⟩
      · refine orderly.increasing.imp_of_mem ?_
        intro left right leftIn rightIn smaller first firstIn next nextIn
        obtain ⟨under, rfl⟩ := inside leftIn firstIn
        obtain ⟨beyond, rfl⟩ := inside rightIn nextIn
        exact .inr ⟨dir, left.1, right.1, under, beyond, smaller, rfl, rfl⟩
      · intro first firstIn next last
        obtain ⟨entry, present, member⟩ := List.mem_flatMap.mp firstIn
        obtain ⟨below, rfl⟩ := inside present member
        obtain rfl := List.mem_singleton.mp last
        exact .inl ⟨entry.1 :: below, List.cons_ne_nil _ _, rfl⟩

-----------------------------------------------------------------------------------------
-- From the top down
-----------------------------------------------------------------------------------------

mutual

/-- The directories of a tree, each before those below it, siblings in the order of their names. -/
def preOrder : Node → DirPath → List DirPath
  | .dir entries, dir => dir :: preOrderAll entries dir
  | _, _ => []

/-- The directories among some entries and below them. -/
def preOrderAll : List (String × Node) → DirPath → List DirPath
  | [], _ => []
  | (name, node) :: rest, dir => preOrder node (dir.child name) ++ preOrderAll rest dir

end

theorem preOrder_dir (entries : Entries) (dir : DirPath)
    : preOrder (.dir entries) dir
      = dir :: entries.flatMap fun entry => preOrder entry.2 (dir.child entry.1) := by
  have all (rest : List (String × Node))
      : preOrderAll rest dir
        = rest.flatMap fun entry => preOrder entry.2 (dir.child entry.1) := by
    induction rest with
    | nil => rfl
    | cons entry rest ih => rw [preOrderAll, ih, List.flatMap_cons]
  rw [preOrder, all]

/-- Both orders are ones of the same directories. -/
theorem preOrder_perm (node : Node) (dir : DirPath)
    : (preOrder node dir).Perm (postOrder node dir) := by
  induction node using Node.induction generalizing dir with
  | file _ => exact .nil
  | link _ => exact .nil
  | dir entries ih =>
      rw [preOrder_dir, postOrder_dir]
      refine .trans (.cons dir ?_) (List.perm_append_singleton _ _).symm
      exact List.Perm.flatMap_left entries fun entry member => ih entry member _

/-- A directory comes before those below it, since its names are the first ones of theirs. -/
theorem lt_append (dir : DirPath) {below : DirPath} (some : below ≠ []) : dir < dir ++ below := by
  obtain ⟨name, rest, rfl⟩ := List.exists_cons_of_ne_nil some
  have longer := @List.append_left_lt _ _ dir _ _ (List.nil_lt_cons name rest)
  rwa [List.append_nil] at longer

/-- What is below different siblings comes in the order of their names. -/
theorem append_lt_append (dir : DirPath) {left right : String} (smaller : left < right)
    (under beyond : DirPath)
    : dir ++ left :: under < dir ++ right :: beyond :=
  List.append_left_lt (List.cons_lt_cons_iff.mpr (.inl smaller))

/-- From the top down, the directories come in the order of their lists of names. -/
theorem preOrder_ordered {node : Node} (wellFormed : node.WellFormed) (dir : DirPath)
    : (preOrder node dir).Pairwise (· < ·) := by
  induction node using Node.induction generalizing dir with
  | file _ => exact .nil
  | link _ => exact .nil
  | dir entries ih =>
      obtain ⟨orderly, children⟩ := Node.wellFormed_dir.mp wellFormed
      have inside {entry : String × Node} (present : entry ∈ entries) {other : DirPath}
          (member : other ∈ preOrder entry.2 (dir.child entry.1))
          : ∃ below, other = dir ++ entry.1 :: below := by
        have member := (preOrder_perm _ _).mem_iff.mp member
        obtain ⟨below, rfl, _⟩ := (mem_postOrder (children entry present)).mp member
        exact ⟨below, by simp [DirPath.child]⟩
      rw [preOrder_dir, List.pairwise_cons, List.pairwise_flatMap]
      refine ⟨?_, fun entry present => ih entry present (children entry present) _, ?_⟩
      · intro other member
        obtain ⟨entry, present, member⟩ := List.mem_flatMap.mp member
        obtain ⟨below, rfl⟩ := inside present member
        exact lt_append dir (List.cons_ne_nil _ _)
      · refine orderly.increasing.imp_of_mem ?_
        intro left right leftIn rightIn smaller first firstIn next nextIn
        obtain ⟨under, rfl⟩ := inside leftIn firstIn
        obtain ⟨beyond, rfl⟩ := inside rightIn nextIn
        exact append_lt_append dir smaller under beyond

end DirMarkers.Walk
