import Mathlib.Algebra.GroupWithZero.Nat
import DirMarkers.DirPath
import DirMarkers.Proofs.Tree.Entries
import DirMarkers.Run.Step

/-!
Texts of paths. The text of a directory or of an entry of one tells its names apart, and no path
with such names ends early.
-/

namespace DirMarkers

/-- A character of joined texts is one of the separator or of a text. -/
theorem notMem_intercalate {c : Char} {separator : String} {parts : List String}
    (around : c ∉ separator.toList) (inside : ∀ part ∈ parts, c ∉ part.toList)
    : c ∉ (separator.intercalate parts).toList := by
  induction parts with
  | nil => simp
  | cons first rest ih =>
      obtain ⟨head, tail⟩ := List.forall_mem_cons.mp inside
      by_cases last : rest = []
      · subst last
        simpa using head
      · simp only [String.intercalate_cons_of_ne_nil last, String.toList_append, List.mem_append,
          not_or]
        exact ⟨⟨head, around⟩, ih tail⟩

/-- A character of a text is one of the texts that it is joined to. -/
theorem mem_intercalate {c : Char} {part : String} (inside : c ∈ part.toList) (separator : String)
    {parts : List String} (member : part ∈ parts)
    : c ∈ (separator.intercalate parts).toList := by
  induction parts with
  | nil => cases member
  | cons first rest ih =>
      by_cases last : rest = []
      · subst last
        obtain rfl := List.mem_singleton.mp member
        simpa using inside
      · simp only [String.intercalate_cons_of_ne_nil last, String.toList_append, List.mem_append]
        rcases List.mem_cons.mp member with rfl | later
        · exact .inl (.inl inside)
        · exact .inr (ih later)

/-- Joined texts are as long as the texts and the separators between them. -/
theorem utf8ByteSize_intercalate (separator : String) {parts : List String} (some : parts ≠ [])
    : (separator.intercalate parts).utf8ByteSize + separator.utf8ByteSize
      = (parts.map fun part => part.utf8ByteSize + separator.utf8ByteSize).sum := by
  induction parts with
  | nil => exact absurd rfl some
  | cons first rest ih =>
      by_cases last : rest = []
      · subst last
        simp
      · simp only [String.intercalate_cons_of_ne_nil last, String.utf8ByteSize_append,
          List.map_cons, List.sum_cons, ← ih last]
        omega

/-- Joining one more text makes no joined texts shorter. -/
theorem utf8ByteSize_intercalate_le (separator : String) (parts : List String) (last : String)
    : (separator.intercalate parts).utf8ByteSize
      ≤ (separator.intercalate (parts ++ [last])).utf8ByteSize := by
  by_cases none : parts = []
  · subst none
    simp
  · have before := utf8ByteSize_intercalate separator none
    have some := List.append_ne_nil_of_right_ne_nil parts (List.cons_ne_nil last [])
    have after := utf8ByteSize_intercalate separator some
    simp only [List.map_append, List.sum_append, List.map_cons, List.sum_cons] at after
    omega

theorem Tree.isTooLong_iff {path : String}
    : isTooLong path = true ↔ pathLimit < path.utf8ByteSize :=
  decide_eq_true_iff

/-- The path of an entry is too long if that of its directory is. -/
theorem PathName.isTooLong_child {path : PathName} (long : Tree.isTooLong path.text = true)
    (name : String)
    : Tree.isTooLong (path.child name).text = true := by
  have joined := utf8ByteSize_intercalate_le "/" path.parts name
  rw [Tree.isTooLong_iff, text] at long ⊢
  by_cases dot : (decide (path.anchor = .relative) && decide (path.parts = [])) = true
  · rw [if_pos dot] at long
    exact absurd long (by decide)
  · rw [if_neg dot, String.utf8ByteSize_append] at long
    rw [if_neg (by simp [child]), String.utf8ByteSize_append]
    exact Nat.lt_of_lt_of_le long (Nat.add_le_add_left joined _)

/-- A path is a reason for a crash if one of its components ends it early. -/
theorem PathName.holdsNul_of_part {path : PathName} {part : String} (member : part ∈ path.parts)
    (nul : holdsNul part = true)
    : holdsNul path.text = true := by
  simp only [holdsNul, List.contains_eq_mem, decide_eq_true_eq] at nul ⊢
  rw [PathName.text, if_neg]
  · rw [String.toList_append]
    exact List.mem_append_right _ (mem_intercalate nul "/" member)
  · simp [List.ne_nil_of_mem member]

/-- A path none of whose components ends it early is no reason for a crash. -/
theorem PathName.holdsNul_text {path : PathName}
    (parts : ∀ part ∈ path.parts, '\x00' ∉ part.toList)
    : holdsNul path.text = false := by
  have joined : '\x00' ∉ ("/".intercalate path.parts).toList :=
    notMem_intercalate (by decide) parts
  have anchor : '\x00' ∉ path.anchor.text.toList := by
    cases path.anchor <;> decide
  have whole : '\x00' ∉ path.text.toList := by
    rw [PathName.text]
    split
    · decide
    · rw [String.toList_append, List.mem_append]
      exact not_or.mpr ⟨anchor, joined⟩
  simpa only [holdsNul, List.contains_eq_mem, decide_eq_false_iff_not] using whole

/-- Joined names are split into the same names again, if no slash is among them. -/
theorem split_intercalate {names : List String} (some : names ≠ [])
    (noSlash : ∀ name ∈ names, '/' ∉ name.toList)
    : Text.split '/' ("/".intercalate names) = names := by
  have chars : ("/".intercalate names).toList = ['/'].intercalate (names.map String.toList) := by
    rw [String.toList_intercalate]
    rfl
  have pieces : (['/'].intercalate (names.map String.toList)).splitOn '/'
      = names.map String.toList := by
    refine List.splitOn_intercalate '/' ?_ (by simpa using some)
    intro piece member
    obtain ⟨name, present, rfl⟩ := List.mem_map.mp member
    exact noSlash name present
  rw [Text.split, chars, pieces, List.map_map]
  exact (List.map_congr_left fun name _ => String.ofList_toList).trans (List.map_id _)

/-- The text of an entry names the entry. Witness: a single dot is the text of no entry, since an
entry of the root has the text of its name and any other holds a slash.
-/
theorem DirPath.ofText_entryText {dir : DirPath} {name : String}
    (names : ∀ other ∈ dir, IsEntryName other) (named : IsEntryName name)
    : DirPath.ofText (dir.entryText name) = dir ++ [name] := by
  have noSlash : ∀ other ∈ dir ++ [name], '/' ∉ other.toList := by
    intro other member
    rcases List.mem_append.mp member with above | last
    · exact (names other above).noSlash
    · exact List.mem_singleton.mp last ▸ named.noSlash
  have split := split_intercalate (List.append_ne_nil_of_right_ne_nil dir (by simp)) noSlash
  rw [DirPath.ofText, DirPath.entryText, split, if_neg]
  intro dot
  rw [dot] at split
  have alone : Text.split '/' "." = ["."] := by decide
  rw [alone] at split
  rcases List.append_eq_singleton_iff.mp split.symm with ⟨_, last⟩ | ⟨_, last⟩
  · exact named.ne_dot (List.singleton_inj.mp last)
  · cases last

/-- The text of a directory names the directory. -/
theorem DirPath.ofText_text {dir : DirPath} (names : ∀ name ∈ dir, IsEntryName name)
    : ofText dir.text = dir := by
  rcases List.eq_nil_or_concat dir with rfl | ⟨above, name, rfl⟩
  · rfl
  · rw [List.concat_eq_append] at names ⊢
    have text : DirPath.text (above ++ [name]) = entryText above name := by
      rw [DirPath.text, if_neg (by simp), entryText]
    rw [text]
    refine ofText_entryText (fun other member => ?_) ?_
    · exact names other (List.mem_append_left _ member)
    · exact names name (by simp)

/-- Directories of the same text are the same. -/
theorem DirPath.text_inj {dir other : DirPath} (names : ∀ name ∈ dir, IsEntryName name)
    (others : ∀ name ∈ other, IsEntryName name) (same : dir.text = other.text)
    : dir = other := by
  rw [← ofText_text names, same, ofText_text others]

end DirMarkers
