import DirMarkers.Ignore.Tables

/-!
Directories above one another, told by their texts. Cutting the text of a directory at its slashes
and joining what comes before each cut gives the directories above it and no others, from the root
down.
-/

namespace DirMarkers

namespace DirPath

/-- The directories from the root down to a directory are those whose names it begins with. -/
theorem mem_ancestors {dir above : DirPath} : above ∈ dir.ancestors ↔ above <+: dir := by
  rw [ancestors, List.mem_map]
  constructor
  · intro h
    obtain ⟨count, _, taken⟩ := h
    exact taken ▸ List.take_prefix count dir
  · intro leading
    refine ⟨above.length, ?_, (List.prefix_iff_eq_take.mp leading).symm⟩
    have shorter := leading.length_le
    rw [List.mem_range]
    omega

/-- A directory is another one or above it: the root is above every directory, and any other is
above those whose text goes on with a slash behind its own.
-/
def Encloses (above dir : String) : Prop :=
  above = "." ∨ above = dir ∨ ∃ rest, dir = above ++ "/" ++ rest

/-- The texts of the directories from the root down to a directory. -/
def chain (dir : String) : List String :=
  (ofText dir).ancestors.map text

-----------------------------------------------------------------------------------------
-- Texts
-----------------------------------------------------------------------------------------

theorem split_slash (above rest : String)
    : Text.split '/' (above ++ "/" ++ rest) = Text.split '/' above ++ Text.split '/' rest := by
  have cut : (above ++ "/" ++ rest).toList = above.toList ++ '/' :: rest.toList := by simp
  rw [Text.split, cut, List.splitOn_append_cons_self, List.map_append]
  rfl

theorem intercalate_split (s : String) : "/".intercalate (Text.split '/' s) = s := by
  apply String.toList_inj.mp
  rw [String.toList_intercalate, Text.split, List.map_map]
  have same : String.toList ∘ String.ofList = id := funext fun _ => String.toList_ofList
  rw [same, List.map_id]
  exact @List.intercalate_splitOn Char s.toList _ _ '/'

theorem split_ne_nil (s : String) : Text.split '/' s ≠ [] := by
  simp [Text.split]

theorem text_ofText (s : String) : (ofText s).text = s := by
  rw [ofText]
  split
  · next dot => exact dot.symm
  · rw [text, if_neg (split_ne_nil s), intercalate_split]

/-- Different texts name different directories. -/
theorem ofText_inj {s other : String} (same : ofText s = ofText other) : s = other := by
  rw [← text_ofText s, same, text_ofText]

-----------------------------------------------------------------------------------------
-- Chains
-----------------------------------------------------------------------------------------

theorem ne_dot_of_slash (above rest : String) : above ++ "/" ++ rest ≠ "." := by
  intro dot
  have slash : '/' ∈ (above ++ "/" ++ rest).toList := by simp
  rw [dot] at slash
  simp at slash

/-- No two directories are above one another. -/
theorem Encloses.antisymm {dir other : String} (h : Encloses dir other) (back : Encloses other dir)
    : dir = other := by
  rcases h with rfl | same | ⟨rest, rfl⟩
  · rcases back with dot | same | ⟨rest, dot⟩
    · exact dot.symm
    · exact same.symm
    · exact absurd dot.symm (ne_dot_of_slash other rest)
  · exact same
  · rcases back with dot | same | ⟨more, longer⟩
    · exact absurd dot (ne_dot_of_slash dir rest)
    · exact same.symm
    · have length := congrArg String.length longer
      simp only [String.length_append] at length
      have slash : "/".length = 1 := by decide
      omega

/-- The names of a directory begin with those of the directories above it. -/
theorem encloses_of_prefix {above dir : DirPath} (leading : above <+: dir)
    : Encloses above.text dir.text := by
  obtain ⟨below, rfl⟩ := leading
  by_cases root : above = []
  · exact .inl (if_pos root)
  by_cases same : below = []
  · exact .inr (.inl (by rw [same, List.append_nil]))
  · refine .inr (.inr ⟨"/".intercalate below, ?_⟩)
    rw [text, if_neg (List.append_ne_nil_of_left_ne_nil root below), text, if_neg root,
      String.intercalate_append_of_ne_nil root same]

theorem mem_chain_iff {above dir : String} : above ∈ chain dir ↔ Encloses above dir := by
  rw [chain, List.mem_map]
  constructor
  · rintro ⟨names, member, rfl⟩
    have encloses := encloses_of_prefix (mem_ancestors.mp member)
    rwa [text_ofText] at encloses
  · rintro (rfl | rfl | ⟨rest, rfl⟩)
    · exact ⟨[], mem_ancestors.mpr (List.nil_prefix), rfl⟩
    · exact ⟨_, mem_ancestors.mpr (List.prefix_refl _), text_ofText above⟩
    · refine ⟨Text.split '/' above, mem_ancestors.mpr ?_, ?_⟩
      · rw [ofText, if_neg (ne_dot_of_slash above rest), split_slash]
        exact List.prefix_append ..
      · rw [text, if_neg (split_ne_nil above), intercalate_split]

/-- Each directory of a chain is above all later ones. -/
theorem chain_ordered (dir : String) : (chain dir).Pairwise Encloses := by
  rw [chain, ancestors, List.map_map, List.pairwise_map]
  refine List.pairwise_lt_range.imp fun {shorter longer} smaller => encloses_of_prefix ?_
  exact List.take_prefix_take_left (Nat.le_of_lt smaller)

/-- Of two directories above a third one, one is above the other. -/
theorem Encloses.total {above other dir : String} (h : Encloses above dir)
    (also : Encloses other dir)
    : Encloses above other ∨ Encloses other above := by
  obtain ⟨before, after, cut⟩ := List.append_of_mem (mem_chain_iff.mpr h)
  have ordered := chain_ordered dir
  have member := mem_chain_iff.mpr also
  rw [cut] at ordered member
  obtain ⟨-, later, between⟩ := List.pairwise_append.mp ordered
  rcases List.mem_append.mp member with earlier | here
  · exact .inr (between other earlier above List.mem_cons_self)
  rcases List.mem_cons.mp here with rfl | behind
  · exact .inl (.inr (.inl rfl))
  · exact .inl (List.rel_of_pairwise_cons later behind)

end DirPath

-----------------------------------------------------------------------------------------
-- Rules along a chain
-----------------------------------------------------------------------------------------

namespace Ignore.Tables

/-- The rules that a directory contributes, told by its text. -/
def level (tables : Tables) (dir : String) : List Rule :=
  tables.content.rulesAt dir ++ tables.marker.rulesAt dir

theorem inForce_eq (tables : Tables) (dir : String)
    : tables.inForce (DirPath.ofText dir) = (DirPath.chain dir).flatMap tables.level := by
  rw [inForce, DirPath.chain, List.flatMap_map]
  rfl

end Ignore.Tables

end DirMarkers
