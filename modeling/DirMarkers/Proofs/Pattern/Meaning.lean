import DirMarkers.Proofs.Pattern.Covering
import DirMarkers.Rule

/-!
What a line of an ignore file means. Its marks are read off both ends, and its rule applies to the
paths in which the segments of the rest cover components in the right place.
-/

namespace DirMarkers

open Pattern

-----------------------------------------------------------------------------------------
-- Lines
-----------------------------------------------------------------------------------------

namespace LinePattern

/-- How a line is read. An exclamation mark in front negates it. Of the tokens behind that, a
separator at the end asks for directories and one in front anchors; what is left between them is the
body, with a separator for every backslash that escapes nothing.
-/
structure IsReadOff (p : LinePattern) (line : List Char) (tokens : List Token) : Prop where
  negated : p.negated = true ↔ line.head? = some '!'
  tokens_eq : tokens = tokenize (if p.negated then line.tail else line)
  dirOnly : p.dirOnly = true ↔ tokens.getLast? = some .separator
  anchored : p.anchored = true ↔ tokens.head? = some .separator
  body : ∃ inner, tokens = (if p.anchored then [.separator] else []) ++ inner
      ++ (if p.dirOnly then [.separator] else [])
    ∧ p.body = inner.map Token.slashed

theorem splitDirMark_eq (tokens : List Token)
    : ((splitDirMark tokens).1 = true ↔ tokens.getLast? = some .separator)
      ∧ tokens = (splitDirMark tokens).2
        ++ if (splitDirMark tokens).1 then [.separator] else [] := by
  rw [splitDirMark]
  split
  · next marked =>
    obtain ⟨inner, rfl⟩ := List.getLast?_eq_some_iff.mp marked
    simp
  · next unmarked => simp [unmarked]

theorem splitAnchorMark_eq (tokens : List Token)
    : ((splitAnchorMark tokens).1 = true ↔ tokens.head? = some .separator)
      ∧ tokens = (if (splitAnchorMark tokens).1 then [.separator] else [])
        ++ (splitAnchorMark tokens).2 := by
  cases tokens with
  | nil => simp [splitAnchorMark]
  | cons t rest =>
      rw [splitAnchorMark]
      split
      · next marked => simp [marked]
      · next unmarked => simp [unmarked]

/-- Of a line with a body, each mark is read off and the rest is the body. Witness: a body that is
not empty keeps the separators at the two ends apart, so that taking one off leaves the other.
-/
theorem ofLine_isReadOff {line : List Char} (some : (ofLine line).body ≠ [])
    : ∃ tokens, (ofLine line).IsReadOff line tokens := by
  have read (negated : Bool) (rest : List Char)
      (reading : ofLine line = ⟨negated, (splitAnchorMark (splitDirMark (tokenize rest)).2).1,
        (splitDirMark (tokenize rest)).1,
        (splitAnchorMark (splitDirMark (tokenize rest)).2).2.map Token.slashed⟩)
      (front : negated = true ↔ line.head? = .some '!')
      (behind : rest = if negated then line.tail else line)
      : (ofLine line).IsReadOff line (tokenize rest) := by
    obtain ⟨last, whole⟩ := splitDirMark_eq (tokenize rest)
    obtain ⟨first, marked⟩ := splitAnchorMark_eq (splitDirMark (tokenize rest)).2
    rw [reading] at some ⊢
    have inner : (splitDirMark (tokenize rest)).2 ≠ [] := by
      intro none
      apply some
      rw [none]
      rfl
    have head : (tokenize rest).head? = (splitDirMark (tokenize rest)).2.head? := by
      obtain ⟨t, others, cut⟩ := List.exists_cons_of_ne_nil inner
      rw [cut] at whole ⊢
      rw [whole]
      rfl
    exact {
      negated := front
      tokens_eq := congrArg tokenize behind
      dirOnly := last
      anchored := head ▸ first
      body := ⟨_, whole.trans (congrArg (· ++ _) marked), rfl⟩
    }
  by_cases front : line.head? = .some '!'
  · obtain ⟨rest, rfl⟩ := List.head?_eq_some_iff.mp front
    exact ⟨_, read true rest rfl (by simp) rfl⟩
  · refine ⟨_, read false line ?_ (by simp [front]) rfl⟩
    rw [ofLine]
    intro rest marked
    exact front (marked ▸ rfl)

/-- Only a special character can be escaped, by the recursion of the tokenizer. -/
theorem escapable_of_mem_tokenize {cs : List Char} {t : Token} (member : t ∈ tokenize cs)
    (escaped : t.escaped = true)
    : isEscapable t.char = true := by
  induction cs using tokenize.induct with
  | case1 => simp [tokenize] at member
  | case2 c =>
      obtain rfl := List.mem_singleton.mp member
      cases escaped
  | case3 c d rest special ih =>
      rw [tokenize, if_pos special] at member
      rcases List.mem_cons.mp member with rfl | later
      · exact (Bool.and_eq_true_iff.mp special).2
      · exact ih later
  | case4 c d rest ordinary ih =>
      rw [tokenize, if_neg ordinary] at member
      rcases List.mem_cons.mp member with rfl | later
      · cases escaped
      · exact ih later

/-- No slash in the body of a line is anything but a separator: a slash cannot be escaped. -/
theorem separator_of_mem_ofLine {line : List Char} {t : Token} (member : t ∈ (ofLine line).body)
    (slash : t.char = '/')
    : t = .separator := by
  obtain ⟨tokens, readOff⟩ := ofLine_isReadOff (List.ne_nil_of_mem member)
  obtain ⟨inner, whole, body⟩ := readOff.body
  rw [body] at member
  obtain ⟨raw, inside, rfl⟩ := List.mem_map.mp member
  rw [Token.slashed] at slash ⊢
  split
  · rfl
  · next other =>
    rw [if_neg other] at slash
    have known : raw ∈ tokens := by simp [whole, inside]
    rw [readOff.tokens_eq] at known
    cases escaped : raw.escaped with
    | false => rw [Token.separator, ← slash, ← escaped]
    | true =>
        have special := escapable_of_mem_tokenize known escaped
        rw [slash] at special
        cases special

end LinePattern

-----------------------------------------------------------------------------------------
-- Rules
-----------------------------------------------------------------------------------------

namespace Rule

/-- A rule carries the marks of its line, and it applies to a path of one line where the segments of
the line cover components of that path.
-/
theorem applies_iff_matches {line baseDir source : String} {rule : Rule}
    (compiled : compile line baseDir source = some rule)
    : (∃ tokens, (LinePattern.ofLine line.toList).IsReadOff line.toList tokens)
      ∧ rule.negated = (LinePattern.ofLine line.toList).negated
      ∧ rule.dirOnly = (LinePattern.ofLine line.toList).dirOnly
      ∧ rule.anchored = (LinePattern.ofLine line.toList).anchored
      ∧ ∀ path isDir, '\n' ∉ path.toList
        → (rule.applies path isDir = true
          ↔ (isDir = true ∨ rule.dirOnly = false)
            ∧ Matches rule.anchored rule.dirOnly baseDir (LinePattern.ofLine line.toList).body
              path.toList) := by
  rw [compile] at compiled
  split at compiled
  · cases compiled
  · next some =>
    obtain rfl := Option.some.inj compiled
    refine ⟨LinePattern.ofLine_isReadOff some, rfl, rfl, rfl, ?_⟩
    intro path isDir oneLine
    rw [applies, Bool.and_eq_true, predicateOf_accepts_iff _ _ _ _ oneLine,
      finds_pieces_iff _ _ _ (fun _ => LinePattern.separator_of_mem_ofLine) oneLine]
    simp

/-- A globstar in the middle takes two directories, and a rule for directories holds below one. -/
theorem applies_iff_matches_globstar
    : ∃ rule, compile "/lib/**/*.tmp/" "pkg" "/lib/**/*.tmp/" = some rule
      ∧ rule.applies "pkg/lib/x/y/z.tmp/deep" true = true := by
  obtain ⟨rule, compiled⟩ := Option.isSome_iff_exists.mp
    (by decide +kernel : (compile "/lib/**/*.tmp/" "pkg" "/lib/**/*.tmp/").isSome = true)
  obtain ⟨-, -, dirOnly, anchored, applies⟩ := applies_iff_matches compiled
  refine ⟨rule, compiled, (applies _ true (by decide +kernel)).mpr ⟨.inl rfl, ?_⟩⟩
  refine ⟨["pkg".toList], ["lib".toList, "x".toList, "y".toList, "z.tmp".toList],
    ["deep".toList], by decide +kernel, ?_, fun _ => by decide +kernel, fun file => ?_⟩
  · have cut : segments (LinePattern.ofLine "/lib/**/*.tmp/".toList).body
        = [tokenize "lib".toList, [.star, .star], tokenize "*.tmp".toList] := by decide +kernel
    rw [cut]
    refine .segment (by decide) (.char rfl (.char rfl (.char rfl .nil))) ?_
    refine .globstar (by decide) ["x".toList, "y".toList] (.last (by decide) ?_)
    exact .star "z".toList (.char rfl (.char rfl (.char rfl (.char rfl .nil))))
  · have marked : (LinePattern.ofLine "/lib/**/*.tmp/".toList).dirOnly = true := by
      decide +kernel
    cases (dirOnly.trans marked).symm.trans file

end Rule

end DirMarkers
