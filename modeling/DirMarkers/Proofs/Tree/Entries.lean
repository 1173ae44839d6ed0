import DirMarkers.Tree.Resolve

/-!
Orderly entries. A directory of a disk has entries with distinct names in increasing order, and
each name is one that a path can spell. Look-ups then determine the entries, and every change to
an entry shows at its own name only.
-/

namespace DirMarkers

/-- A text that a path can use for an entry of a directory: one component, and no character that
ends the path.
-/
structure IsEntryName (name : String) : Prop where
  ne_empty : name ≠ ""
  ne_dot : name ≠ "."
  ne_dots : name ≠ ".."
  noSlash : '/' ∉ name.toList
  noNul : '\x00' ∉ name.toList

instance (name : String) : Decidable (IsEntryName name) :=
  decidable_of_iff
    (name ≠ "" ∧ name ≠ "." ∧ name ≠ ".." ∧ '/' ∉ name.toList ∧ '\x00' ∉ name.toList)
    ⟨fun ⟨a, b, c, d, e⟩ => ⟨a, b, c, d, e⟩, fun ⟨a, b, c, d, e⟩ => ⟨a, b, c, d, e⟩⟩

/-- The entries of a directory as a disk keeps them. -/
structure Entries.Orderly (entries : Entries) : Prop where
  names : ∀ entry ∈ entries, IsEntryName entry.1 ∧ entry.1.utf8ByteSize ≤ Tree.nameLimit
  increasing : entries.Pairwise (·.1 < ·.1)

instance (entries : Entries) : Decidable entries.Orderly :=
  decidable_of_iff
    ((∀ entry ∈ entries, IsEntryName entry.1 ∧ entry.1.utf8ByteSize ≤ Tree.nameLimit)
      ∧ entries.Pairwise (·.1 < ·.1))
    ⟨fun ⟨names, increasing⟩ => ⟨names, increasing⟩, fun h => ⟨h.names, h.increasing⟩⟩

namespace Entries

@[simp] theorem find?_nil (name : String) : find? [] name = none := rfl

theorem find?_cons (key name : String) (node : Node) (rest : Entries)
    : find? ((key, node) :: rest) name = if name = key then some node else find? rest name := by
  by_cases same : name = key
  · simp [find?, same]
  · simp [find?, List.lookup_cons, beq_eq_false_iff_ne.mpr same, same]

theorem mem_of_find? {entries : Entries} {name : String} {node : Node}
    (found : find? entries name = some node)
    : (name, node) ∈ entries := by
  obtain ⟨before, after, rfl, _⟩ := List.lookup_eq_some_iff.mp found
  simp

/-- The tail of orderly entries is orderly, by restriction of both fields. -/
theorem Orderly.tail {entry : String × Node} {rest : Entries} (h : Orderly (entry :: rest))
    : Orderly rest where
  names := fun other member => h.names other (List.mem_cons_of_mem entry member)
  increasing := (List.pairwise_cons.mp h.increasing).2

/-- Each entry is the one that its name finds. Witness: an earlier entry has a smaller name. -/
theorem find?_of_mem {entries : Entries} (increasing : entries.Pairwise (·.1 < ·.1))
    {name : String} {node : Node} (member : (name, node) ∈ entries)
    : find? entries name = some node := by
  induction entries with
  | nil => cases member
  | cons entry rest ih =>
      obtain ⟨key, first⟩ := entry
      obtain ⟨larger, tail⟩ := List.pairwise_cons.mp increasing
      rw [find?_cons]
      rcases List.mem_cons.mp member with same | later
      · obtain ⟨rfl, rfl⟩ := Prod.mk.inj same
        simp
      · have smaller : key < name := larger _ later
        have other : name ≠ key := fun same => String.lt_irrefl key (same ▸ smaller)
        rw [if_neg other]
        exact ih tail later

theorem Orderly.find?_of_mem {entries : Entries} (h : Orderly entries) {name : String}
    {node : Node} (member : (name, node) ∈ entries)
    : find? entries name = some node :=
  Entries.find?_of_mem h.increasing member

/-- The entry of a name stands at one place only. -/
theorem split_unique {before earlier after later : Entries} {name : String} {node other : Node}
    {entries : Entries} (increasing : entries.Pairwise (·.1 < ·.1))
    (turn : entries = before ++ (name, node) :: after)
    (split : entries = earlier ++ (name, other) :: later)
    : before = earlier ∧ node = other := by
  subst turn
  induction before generalizing earlier with
  | nil =>
      obtain ⟨larger, _⟩ := List.pairwise_cons.mp increasing
      cases earlier with
      | nil => exact ⟨rfl, (Prod.mk.inj (List.cons.inj split).1).2⟩
      | cons first rest =>
          obtain ⟨-, rfl⟩ := List.cons.inj split
          exact absurd (larger (name, other) (by simp)) (String.lt_irrefl name)
  | cons entry before ih =>
      obtain ⟨larger, tail⟩ := List.pairwise_cons.mp increasing
      cases earlier with
      | nil =>
          obtain ⟨rfl, -⟩ := List.cons.inj split
          exact absurd (larger (name, node) (by simp)) (String.lt_irrefl name)
      | cons first rest =>
          obtain ⟨rfl, rest⟩ := List.cons.inj split
          obtain ⟨rfl, same⟩ := ih tail rest
          exact ⟨rfl, same⟩

/-- A name below all others finds nothing, since it is smaller than each of them. -/
theorem find?_eq_none_of_lt {entries : Entries} {name : String}
    (smaller : ∀ entry ∈ entries, name < entry.1)
    : find? entries name = none := by
  cases found : find? entries name with
  | none => rfl
  | some node => exact absurd (smaller _ (mem_of_find? found)) (String.lt_irrefl name)

/-- Two orderly lists of entries are equal when they answer every look-up alike. Witness: the
heads have the least name of their lists, so it is the same one, and it is in neither tail.
-/
theorem Orderly.ext {left right : Entries} (hl : Orderly left) (hr : Orderly right)
    (same : ∀ name, find? left name = find? right name)
    : left = right := by
  induction left generalizing right with
  | nil =>
      cases right with
      | nil => rfl
      | cons second right =>
          obtain ⟨m, y⟩ := second
          have found := same m
          rw [find?_cons, if_pos rfl] at found
          cases found
  | cons first left ih =>
      cases right with
      | nil =>
          obtain ⟨n, x⟩ := first
          have found := same n
          rw [find?_cons, if_pos rfl] at found
          cases found
      | cons second right =>
          obtain ⟨n, x⟩ := first
          obtain ⟨m, y⟩ := second
          have below := (List.pairwise_cons.mp hl.increasing).1
          have above := (List.pairwise_cons.mp hr.increasing).1
          -- Each head is in the other list. If both were in tails, each would be below the other.
          have first : (n, x) ∈ (m, y) :: right :=
            mem_of_find? (by rw [← same n, find?_cons]; simp)
          have second : (m, y) ∈ (n, x) :: left :=
            mem_of_find? (by rw [same m, find?_cons]; simp)
          have names : (n, x) = (m, y) := by
            rcases List.mem_cons.mp first with equal | later
            · exact equal
            · rcases List.mem_cons.mp second with equal | earlier
              · exact equal.symm
              · exact absurd (above _ later) (String.lt_asymm (below _ earlier))
          obtain ⟨rfl, rfl⟩ := Prod.mk.inj names
          have tails : ∀ name, find? left name = find? right name := by
            intro name
            by_cases head : name = n
            · rw [head, find?_eq_none_of_lt below, find?_eq_none_of_lt above]
            · simpa [find?_cons, head] using same name
          rw [ih hl.tail hr.tail tails]

-----------------------------------------------------------------------------------------
-- Changes to entries
-----------------------------------------------------------------------------------------

theorem find?_put (entries : Entries) (name other : String) (node : Node)
    : find? (put name node entries) other
      = if other = name then some node else find? entries other := by
  induction entries with
  | nil => simp [put, find?_cons]
  | cons entry rest ih =>
      obtain ⟨key, first⟩ := entry
      simp only [put]
      split
      · simp only [find?_cons]
      · split
        · next same =>
          subst same
          simp only [find?_cons]
          split <;> rfl
        · next different =>
          simp only [find?_cons, ih]
          by_cases head : other = key
          · simp [head, Ne.symm different]
          · simp [head]

theorem find?_erase (entries : Entries) (name other : String)
    : find? (erase entries name) other
      = if other = name then none else find? entries other := by
  induction entries with
  | nil => simp [erase]
  | cons entry rest ih =>
      obtain ⟨key, first⟩ := entry
      by_cases same : key = name
      · have skipped : erase ((key, first) :: rest) name = erase rest name := by
          simp [erase, same]
        rw [skipped, ih, find?_cons, same]
        split <;> simp_all
      · have kept : erase ((key, first) :: rest) name = (key, first) :: erase rest name := by
          simp [erase, same]
        rw [kept, find?_cons, find?_cons, ih]
        by_cases head : other = key
        · simp [head, same]
        · simp [head]

theorem mem_put {entries : Entries} {name : String} {node : Node} {entry : String × Node}
    (member : entry ∈ put name node entries)
    : entry = (name, node) ∨ entry ∈ entries := by
  induction entries with
  | nil => exact .inl (List.mem_singleton.mp member)
  | cons first rest ih =>
      simp only [put] at member
      split at member
      · exact List.mem_cons.mp member
      · split at member
        · exact (List.mem_cons.mp member).imp_right (List.mem_cons_of_mem first)
        · rcases List.mem_cons.mp member with same | later
          · exact .inr (same ▸ List.mem_cons_self)
          · exact (ih later).imp_right (List.mem_cons_of_mem first)

/-- Putting an entry in its place keeps the order of names. -/
theorem increasing_put {entries : Entries} (h : entries.Pairwise (·.1 < ·.1)) (name : String)
    (node : Node)
    : (put name node entries).Pairwise (·.1 < ·.1) := by
  induction entries with
  | nil => simp [put]
  | cons first rest ih =>
      obtain ⟨above, tail⟩ := List.pairwise_cons.mp h
      simp only [put]
      split
      · next smaller =>
        refine List.pairwise_cons.mpr ⟨fun other member => ?_, h⟩
        rcases List.mem_cons.mp member with rfl | later
        · exact smaller
        · exact String.lt_trans smaller (above other later)
      · split
        · next same =>
          exact List.pairwise_cons.mpr ⟨fun other later => same ▸ above other later, tail⟩
        · next different =>
          have larger : first.1 < name := by
            rcases String.le_total name first.1 with le | le
            · exact absurd (String.le_antisymm le (String.not_lt.mp ‹_›)) different
            · exact String.not_le.mp fun ge => different (String.le_antisymm ge le)
          refine List.pairwise_cons.mpr ⟨fun other member => ?_, ih tail⟩
          rcases mem_put member with rfl | later
          · exact larger
          · exact above other later

theorem Orderly.put {entries : Entries} (h : Orderly entries) {name : String} (node : Node)
    (named : IsEntryName name) (short : name.utf8ByteSize ≤ Tree.nameLimit)
    : Orderly (Entries.put name node entries) where
  names := by
    intro entry member
    rcases mem_put member with rfl | old
    · exact ⟨named, short⟩
    · exact h.names entry old
  increasing := increasing_put h.increasing name node

/-- Keeping some of the entries keeps them orderly. -/
theorem Orderly.sublist {entries kept : Entries} (h : Orderly entries)
    (sub : kept.Sublist entries)
    : Orderly kept where
  names := fun entry member => h.names entry (sub.subset member)
  increasing := h.increasing.sublist sub

end Entries

end DirMarkers
