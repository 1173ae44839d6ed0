import DirMarkers.Proofs.Pattern.Finding

/-!
Patterns without wildcards. Comparing such a pattern with a path finds what searching for it as an
expression would find, so a predicate finds the spellings of its pattern whichever kind it is.
-/

namespace DirMarkers.Pattern

theorem Token.piece_of_plain {t : Token} (plain : t.isWildcard = false)
    : t.piece = .char t.char := by
  simp only [isWildcard, Bool.or_eq_false_iff, decide_eq_false_iff_not] at plain
  rw [piece, if_neg plain.1, if_neg plain.2]

theorem map_piece_of_plain {tokens : List Token} (plain : ∀ t ∈ tokens, t.isWildcard = false)
    : tokens.map Token.piece = (literal tokens).map .char := by
  rw [literal, List.map_map]
  exact List.map_congr_left fun t member => t.piece_of_plain (plain t member)

theorem isGlobstar_of_plain {segment : List Token} (plain : ∀ t ∈ segment, t.isWildcard = false)
    : isGlobstar segment = false := by
  rw [isGlobstar, decide_eq_false_iff_not]
  rintro rfl
  cases plain .star List.mem_cons_self

/-- Segments without wildcards stand for their characters, with a slash between every two.
Witness: induction on the segments, as their pieces are put together.
-/
theorem segmentPieces_of_plain {segments : List (List Token)}
    (plain : ∀ segment ∈ segments, ∀ t ∈ segment, t.isWildcard = false)
    : segmentPieces segments = (literal ([Token.separator].intercalate segments)).map .char := by
  induction segments with
  | nil => rfl
  | cons segment rest ih =>
      obtain ⟨here, later⟩ := List.forall_mem_cons.mp plain
      have ordinary := isGlobstar_of_plain here
      cases rest with
      | nil => simp [segmentPieces, ordinary, map_piece_of_plain here]
      | cons next rest =>
          rw [segmentPieces, ih later, List.intercalate_cons_cons]
          · simp [ordinary, map_piece_of_plain here, literal, Token.separator]
          · simp

/-- A token of a segment is one of the pattern, by induction on the segments that spell it. -/
theorem mem_of_mem_segments {tokens segment : List Token} {t : Token}
    (member : segment ∈ segments tokens) (inside : t ∈ segment)
    : t ∈ tokens := by
  have spelled {pieces : List (List Token)} (member : segment ∈ pieces)
      : t ∈ [Token.separator].intercalate pieces := by
    induction pieces with
    | nil => cases member
    | cons first rest ih =>
        cases rest with
        | nil =>
            obtain rfl := List.mem_singleton.mp member
            simpa using inside
        | cons next rest =>
            rw [List.intercalate_cons_cons]
            rcases List.mem_cons.mp member with rfl | later
            · simp [inside]
            · exact List.mem_append_right _ (ih later)
  exact @List.intercalate_splitOn Token tokens _ _ Token.separator ▸ spelled member

theorem plain_of_mem_segments {tokens : List Token} (plain : tokens.any Token.isWildcard = false)
    : ∀ segment ∈ segments tokens, ∀ t ∈ segment, t.isWildcard = false := by
  intro segment member t inside
  simpa using List.any_eq_false.mp plain t (mem_of_mem_segments member inside)

theorem pieces_of_plain {tokens : List Token} (plain : tokens.any Token.isWildcard = false)
    : pieces tokens = (literal tokens).map .char := by
  rw [pieces, segmentPieces_of_plain (plain_of_mem_segments plain), segments,
    List.intercalate_splitOn]

/-- A pattern without wildcards stands for its own characters. -/
theorem spells_pieces_of_plain {tokens : List Token} (plain : tokens.any Token.isWildcard = false)
    (text : List Char)
    : Spells (pieces tokens) text ↔ text = literal tokens := by
  rw [pieces_of_plain plain, spells_chars]

/-- What matches of a pattern may start with. -/
def anchorFor (anchored : Bool) (baseDir : String) : Option String :=
  if anchored then some (anchorOf baseDir) else none

/-- A predicate accepts a path of one line if a text that its pattern stands for is found there,
whether it compares or searches.
-/
theorem predicateOf_accepts_iff (tokens : List Token) (anchored dirOnly : Bool) (baseDir : String)
    {path : List Char} (oneLine : '\n' ∉ path)
    : (predicateOf tokens anchored baseDir dirOnly).accepts path = true
      ↔ Finds (anchorFor anchored baseDir) dirOnly (Spells (pieces tokens)) path := by
  rw [predicateOf]
  split
  · rw [Predicate.accepts, Regex.search_eq_accepts, Regex.accepts_iff _ oneLine]
    rfl
  · next plain =>
    rw [Predicate.accepts, Literal.accepts_iff]
    exact Finds.congr fun text _ => (spells_pieces_of_plain (Bool.eq_false_iff.mpr plain) text).symm

/-- Where a pattern has no wildcard, its predicate compares it with the path, and the comparison
answers what the search for its expression would.
-/
theorem comparison_eq_search {tokens : List Token} (plain : tokens.any Token.isWildcard = false)
    (anchored dirOnly : Bool) (baseDir : String) {path : List Char} (oneLine : '\n' ∉ path)
    : predicateOf tokens anchored baseDir dirOnly
        = .literal (literalOf tokens anchored baseDir dirOnly)
      ∧ (literalOf tokens anchored baseDir dirOnly).accepts path
        = (regexOf tokens anchored baseDir dirOnly).search path := by
  refine ⟨by simp [predicateOf, plain], ?_⟩
  rw [Bool.eq_iff_iff, Literal.accepts_iff, Regex.search_eq_accepts, Regex.accepts_iff _ oneLine]
  exact Finds.congr fun text _ => (spells_pieces_of_plain plain text).symm

/-- The pattern of `out/tmp/` finds the directory and what is below it, but no longer name. -/
theorem comparison_eq_search_directory
    : (tokenize "out/tmp".toList).any Token.isWildcard = false
      ∧ '\n' ∉ "a/out/tmp/x".toList
      ∧ (literalOf (tokenize "out/tmp".toList) false "." true).accepts "a/out/tmp/x".toList
        = (regexOf (tokenize "out/tmp".toList) false "." true).search "a/out/tmp/x".toList
      ∧ (literalOf (tokenize "out/tmp".toList) false "." true).accepts "a/out/tmp/x".toList
        = true :=
  ⟨by decide, by decide, (comparison_eq_search (by decide) false true "." (by decide)).2,
    by decide⟩

end DirMarkers.Pattern
