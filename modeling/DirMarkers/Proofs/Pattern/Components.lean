import DirMarkers.DirPath

/-!
The components of a path: what stands between its slashes. Cutting the list of components in two
is cutting the path at one of its slashes.
-/

namespace DirMarkers.Pattern

/-- The components of a path, of which there is always at least one. -/
def components (path : List Char) : List (List Char) :=
  path.splitOn '/'

theorem components_ne_nil (path : List Char) : components path ≠ [] :=
  List.splitOn_ne_nil '/' path

theorem components_append_slash (before after : List Char)
    : components (before ++ '/' :: after) = components before ++ components after :=
  List.splitOn_append_cons_self before after

theorem components_of_noSlash {path : List Char} (noSlash : '/' ∉ path)
    : components path = [path] :=
  List.splitOn_eq_singleton noSlash

/-- Paths with the same components are the same, since the components spell the path. -/
theorem components_inj {path other : List Char} (same : components path = components other)
    : path = other := by
  rw [← @List.intercalate_splitOn Char path _ _ '/', ← @List.intercalate_splitOn Char other _ _ '/']
  exact congrArg _ same

/-- An item in front of a list extends the first piece, unless the list is cut there. -/
theorem exists_splitOn_cons {α : Type} [DecidableEq α] (x item : α) (rest : List α)
    : ∃ first others, rest.splitOn x = first :: others
      ∧ (item :: rest).splitOn x
        = if item = x then [] :: first :: others else (item :: first) :: others := by
  obtain ⟨first, others, cut⟩ := List.exists_cons_of_ne_nil (List.splitOn_ne_nil x rest)
  refine ⟨first, others, cut, ?_⟩
  rw [List.splitOn_cons_eq_if_modifyHead, cut]
  by_cases same : item = x
  · simp [same]
  · simp [same]

/-- No piece holds what a list is cut at, by induction on the list. -/
theorem notMem_of_mem_splitOn {α : Type} [DecidableEq α] {x : α} {items piece : List α}
    (member : piece ∈ items.splitOn x)
    : x ∉ piece := by
  induction items generalizing piece with
  | nil =>
      obtain rfl : piece = [] := by simpa using member
      simp
  | cons item rest ih =>
      obtain ⟨first, others, cut, whole⟩ := exists_splitOn_cons x item rest
      rw [cut] at ih
      rw [whole] at member
      by_cases same : item = x
      · rw [if_pos same] at member
        rcases List.mem_cons.mp member with rfl | later
        · simp
        · exact ih later
      · rw [if_neg same] at member
        rcases List.mem_cons.mp member with rfl | later
        · intro inside
          rcases List.mem_cons.mp inside with here | behind
          · exact same here.symm
          · exact ih List.mem_cons_self behind
        · exact ih (List.mem_cons_of_mem first later)

/-- A path has a single component if and only if it has no slash, and then is that component. -/
theorem components_eq_singleton {path component : List Char}
    : components path = [component] ↔ path = component ∧ '/' ∉ path := by
  constructor
  · intro single
    have noSlash : '/' ∉ component :=
      notMem_of_mem_splitOn (single ▸ List.mem_singleton_self component)
    obtain rfl := components_inj (single.trans (components_of_noSlash noSlash).symm)
    exact ⟨rfl, noSlash⟩
  · rintro ⟨rfl, noSlash⟩
    exact components_of_noSlash noSlash

/-- Components that fall into two parts belong to a path that falls into two parts around a slash.
Witness: induction on the path, whose first slash ends its first component.
-/
theorem cut_of_components {path : List Char} {above below : List (List Char)}
    (cut : components path = above ++ below) (someAbove : above ≠ []) (someBelow : below ≠ [])
    : ∃ before after, path = before ++ '/' :: after ∧ components before = above
      ∧ components after = below := by
  induction path generalizing above with
  | nil =>
      rcases List.append_eq_singleton_iff.mp cut.symm with ⟨none, _⟩ | ⟨_, none⟩
      · exact absurd none someAbove
      · exact absurd none someBelow
  | cons c rest ih =>
      obtain ⟨head, tail, rfl⟩ := List.exists_cons_of_ne_nil someAbove
      obtain ⟨first, others, inner, whole⟩ := exists_splitOn_cons '/' c rest
      rw [← components, cut, List.cons_append] at whole
      rw [← components] at inner
      by_cases slash : c = '/'
      · rw [if_pos slash] at whole
        obtain ⟨rfl, behind⟩ := List.cons.inj whole
        rw [← behind] at inner
        cases tail with
        | nil => exact ⟨[], rest, by rw [slash, List.nil_append], rfl, inner⟩
        | cons next more =>
            obtain ⟨before, after, rfl, left, right⟩ := ih inner (by simp)
            refine ⟨c :: before, after, rfl, ?_, right⟩
            rw [slash, ← left]
            exact components_append_slash [] before
      · rw [if_neg slash] at whole
        obtain ⟨rfl, behind⟩ := List.cons.inj whole
        rw [← behind, ← List.cons_append] at inner
        obtain ⟨before, after, rfl, left, right⟩ := ih inner (by simp)
        refine ⟨c :: before, after, rfl, ?_, right⟩
        obtain ⟨head, tail, again, extended⟩ := exists_splitOn_cons '/' c before
        rw [components, extended, if_neg slash]
        rw [← components, left] at again
        obtain ⟨rfl, rfl⟩ := List.cons.inj again
        rfl

end DirMarkers.Pattern
