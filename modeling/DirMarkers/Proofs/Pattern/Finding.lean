import DirMarkers.Pattern.Predicate

/-!
What predicates find in a path, told by the parts of the path: something in front that a match may
start behind, the match itself, and something that may follow it. Literals and expressions differ
in the match alone.
-/

namespace DirMarkers.Pattern

/-- The texts that a piece stands for; a text is part of one line. -/
def Piece.Spells : Piece → List Char → Prop
  | .char c, text => text = [c]
  | .one, text => ∃ c, c ≠ '/' ∧ text = [c]
  | .run, text => '/' ∉ text
  | .directories, text => text = [] ∨ ∃ above, '\n' ∉ above ∧ text = above ++ ['/']
  | .anything, text => '\n' ∉ text

/-- The texts that pieces stand for, one after another. -/
def Spells : List Piece → List Char → Prop
  | [], text => text = []
  | piece :: pieces, text =>
    ∃ part rest, text = part ++ rest ∧ piece.Spells part ∧ Spells pieces rest

/-- What may be in front of a match: the text of its anchor, or whole components. -/
def Begins (anchor : Option String) (before : List Char) : Prop :=
  match anchor with
  | some start => before = start.toList
  | none => before = [] ∨ ∃ above, before = above ++ ['/']

/-- What may follow a match: nothing, or what is below a directory. -/
def Ends (below : Bool) (after : List Char) : Prop :=
  after = [] ∨ below = true ∧ ∃ under, after = '/' :: under

/-- A match is found in a path, at a place where matches are looked for. -/
def Finds (anchor : Option String) (below : Bool) (isMatch : List Char → Prop) (path : List Char)
    : Prop :=
  ∃ before found after, path = before ++ found ++ after ∧ Begins anchor before ∧ isMatch found
    ∧ Ends below after

theorem Finds.congr {anchor : Option String} {below : Bool} {left right : List Char → Prop}
    {path : List Char} (same : ∀ found, found <:+: path → (left found ↔ right found))
    : Finds anchor below left path ↔ Finds anchor below right path := by
  constructor
  · rintro ⟨before, found, after, rfl, begins, matched, ends⟩
    exact ⟨before, found, after, rfl, begins, (same found ⟨before, after, rfl⟩).mp matched, ends⟩
  · rintro ⟨before, found, after, rfl, begins, matched, ends⟩
    exact ⟨before, found, after, rfl, begins, (same found ⟨before, after, rfl⟩).mpr matched, ends⟩

-----------------------------------------------------------------------------------------
-- Expressions
-----------------------------------------------------------------------------------------

theorem acceptsOne_iff (ok : Char → Bool) (next : List Char → Bool) (text : List Char)
    : acceptsOne ok next text = true
      ↔ ∃ c rest, text = c :: rest ∧ ok c = true ∧ next rest = true := by
  cases text with
  | nil => simp [acceptsOne]
  | cons c rest =>
      rw [acceptsOne, Bool.and_eq_true]
      constructor
      · rintro ⟨right, last⟩
        exact ⟨c, rest, rfl, right, last⟩
      · rintro ⟨_, _, whole, right, last⟩
        obtain ⟨rfl, rfl⟩ := List.cons.inj whole
        exact ⟨right, last⟩

/-- A run is passed over by induction on the text: it ends at once, or goes on with a character
that is right.
-/
theorem acceptsRun_iff (ok : Char → Bool) (next : List Char → Bool) (text : List Char)
    : acceptsRun ok next text = true
      ↔ ∃ run rest, text = run ++ rest ∧ (∀ c ∈ run, ok c = true) ∧ next rest = true := by
  induction text with
  | nil =>
      constructor
      · exact fun here => ⟨[], [], rfl, by simp, here⟩
      · rintro ⟨run, rest, whole, _, last⟩
        obtain ⟨rfl, rfl⟩ := List.append_eq_nil_iff.mp whole.symm
        exact last
  | cons c rest ih =>
      rw [acceptsRun, Bool.or_eq_true, Bool.and_eq_true, ih]
      constructor
      · rintro (here | ⟨right, run, behind, rfl, all, last⟩)
        · exact ⟨[], c :: rest, rfl, by simp, here⟩
        · exact ⟨c :: run, behind, rfl, List.forall_mem_cons.mpr ⟨right, all⟩, last⟩
      · rintro ⟨run, behind, whole, all, last⟩
        cases run with
        | nil =>
            rw [List.nil_append] at whole
            exact .inl (whole ▸ last)
        | cons first run =>
            obtain ⟨rfl, rfl⟩ := List.cons.inj whole
            obtain ⟨right, all⟩ := List.forall_mem_cons.mp all
            exact .inr ⟨right, run, behind, rfl, all, last⟩

theorem forall_isDot_iff (text : List Char) : (∀ c ∈ text, isDot c = true) ↔ '\n' ∉ text := by
  simp only [isDot, bne_iff_ne, ne_eq, List.forall_mem_ne']

theorem forall_isComponentChar_iff (text : List Char)
    : (∀ c ∈ text, isComponentChar c = true) ↔ '/' ∉ text := by
  simp only [isComponentChar, bne_iff_ne, ne_eq, List.forall_mem_ne']

/-- A piece accepts a text that one of the texts it stands for starts, by cases on the piece. -/
theorem Piece.accepts_iff (piece : Piece) (next : List Char → Bool) (text : List Char)
    : piece.accepts next text = true
      ↔ ∃ part rest, text = part ++ rest ∧ piece.Spells part ∧ next rest = true := by
  cases piece with
  | char c =>
      rw [accepts, acceptsOne_iff]
      constructor
      · rintro ⟨d, rest, rfl, same, last⟩
        exact ⟨[d], rest, rfl, by simpa [Spells] using same, last⟩
      · rintro ⟨part, rest, rfl, rfl, last⟩
        exact ⟨c, rest, rfl, by simp, last⟩
  | one =>
      rw [accepts, acceptsOne_iff]
      constructor
      · rintro ⟨c, rest, rfl, right, last⟩
        exact ⟨[c], rest, rfl, ⟨c, by simpa [isComponentChar] using right, rfl⟩, last⟩
      · rintro ⟨part, rest, rfl, ⟨c, right, rfl⟩, last⟩
        exact ⟨c, rest, rfl, by simpa [isComponentChar] using right, last⟩
  | run => simp only [accepts, acceptsRun_iff, forall_isComponentChar_iff, Spells]
  | directories =>
      simp only [accepts, Bool.or_eq_true, acceptsRun_iff, acceptsOne_iff, forall_isDot_iff]
      constructor
      · rintro (here | ⟨above, _, rfl, line, c, rest, rfl, slash, last⟩)
        · exact ⟨[], text, rfl, .inl rfl, here⟩
        · obtain rfl : c = '/' := by simpa [isSlash] using slash
          exact ⟨above ++ ['/'], rest, by simp, .inr ⟨above, line, rfl⟩, last⟩
      · rintro ⟨part, rest, rfl, rfl | ⟨above, line, rfl⟩, last⟩
        · exact .inl last
        · exact .inr ⟨above, '/' :: rest, by simp, line, '/', rest, rfl, rfl, last⟩
  | anything => simp only [accepts, acceptsRun_iff, forall_isDot_iff, Spells]

theorem acceptsPieces_iff (pieces : List Piece) (next : List Char → Bool) (text : List Char)
    : acceptsPieces next pieces text = true
      ↔ ∃ part rest, text = part ++ rest ∧ Spells pieces part ∧ next rest = true := by
  induction pieces generalizing text with
  | nil =>
      constructor
      · exact fun here => ⟨[], text, rfl, rfl, here⟩
      · rintro ⟨_, rest, rfl, rfl, last⟩
        exact last
  | cons piece pieces ih =>
      rw [acceptsPieces, Piece.accepts_iff]
      constructor
      · rintro ⟨first, _, rfl, spelled, more⟩
        obtain ⟨part, rest, rfl, others, last⟩ := (ih _).mp more
        refine ⟨first ++ part, rest, by simp, ⟨first, part, rfl, spelled, others⟩, last⟩
      · rintro ⟨_, rest, rfl, ⟨first, part, rfl, spelled, others⟩, last⟩
        exact ⟨first, part ++ rest, by simp, spelled, (ih _).mpr ⟨part, rest, rfl, others, last⟩⟩

theorem spells_append (left right : List Piece) (text : List Char)
    : Spells (left ++ right) text
      ↔ ∃ first next, text = first ++ next ∧ Spells left first ∧ Spells right next := by
  induction left generalizing text with
  | nil =>
      constructor
      · exact fun spelled => ⟨[], text, rfl, rfl, spelled⟩
      · rintro ⟨_, next, rfl, rfl, spelled⟩
        exact spelled
  | cons piece left ih =>
      constructor
      · rintro ⟨part, _, rfl, spelled, more⟩
        obtain ⟨first, next, rfl, others, last⟩ := (ih _).mp more
        exact ⟨part ++ first, next, by simp, ⟨part, first, rfl, spelled, others⟩, last⟩
      · rintro ⟨_, next, rfl, ⟨part, first, rfl, spelled, others⟩, last⟩
        exact ⟨part, first ++ next, by simp, spelled, (ih _).mpr ⟨first, next, rfl, others, last⟩⟩

/-- Characters that stand for themselves spell themselves, by induction on them. -/
theorem spells_chars (chars text : List Char) : Spells (chars.map .char) text ↔ text = chars := by
  induction chars generalizing text with
  | nil => rfl
  | cons c chars ih => simp [Spells, Piece.Spells, ih]

theorem acceptsBehindSlash_iff (next : List Char → Bool) (text : List Char)
    : acceptsBehindSlash next text = true
      ↔ ∃ above rest, text = above ++ '/' :: rest ∧ next rest = true := by
  induction text with
  | nil => simp [acceptsBehindSlash]
  | cons c rest ih =>
      rw [acceptsBehindSlash, Bool.or_eq_true, Bool.and_eq_true, ih]
      constructor
      · rintro (⟨slash, last⟩ | ⟨above, behind, rfl, last⟩)
        · obtain rfl : c = '/' := by simpa [isSlash] using slash
          exact ⟨[], rest, rfl, last⟩
        · exact ⟨c :: above, behind, rfl, last⟩
      · rintro ⟨above, behind, whole, last⟩
        cases above with
        | nil =>
            obtain ⟨rfl, rfl⟩ := List.cons.inj whole
            exact .inl ⟨rfl, last⟩
        | cons first above =>
            obtain ⟨rfl, rfl⟩ := List.cons.inj whole
            exact .inr ⟨above, behind, rfl, last⟩

/-- On one line, a match ends where nothing follows it, or what is below a directory. -/
theorem acceptsTail_iff (below : Bool) {text : List Char} (oneLine : '\n' ∉ text)
    : (if below then acceptsBelow else acceptsEnd) text = true ↔ Ends below text := by
  have ended : acceptsEnd text = true ↔ text = [] := by
    simp only [acceptsEnd, Bool.or_eq_true, decide_eq_true_eq]
    refine or_iff_left fun feed => oneLine ?_
    simp [feed]
  cases below with
  | false => simpa [Ends] using ended
  | true =>
      simp only [if_true, acceptsBelow, Bool.or_eq_true, ended, Ends, true_and]
      refine or_congr_right ?_
      rw [acceptsOne_iff]
      constructor
      · rintro ⟨c, rest, rfl, slash, _⟩
        exact ⟨rest, by simpa [isSlash] using slash⟩
      · rintro ⟨under, rfl⟩
        refine ⟨'/', under, rfl, rfl, (acceptsRun_iff ..).mpr ?_⟩
        refine ⟨under, [], by simp, (forall_isDot_iff under).mpr ?_, rfl⟩
        exact fun inside => oneLine (List.mem_cons_of_mem _ inside)

/-- An expression accepts a path of one line if a text that its body stands for is found there. -/
theorem Regex.accepts_iff (regex : Regex) {path : List Char} (oneLine : '\n' ∉ path)
    : regex.accepts path = true ↔ Finds regex.anchor regex.below (Spells regex.body) path := by
  have tail {before after : List Char} (whole : path = before ++ after)
      : (if regex.below then acceptsBelow else acceptsEnd) after = true
        ↔ Ends regex.below after :=
    acceptsTail_iff regex.below fun inside => oneLine (whole ▸ List.mem_append_right before inside)
  cases anchored : regex.anchor with
  | some start =>
      simp only [accepts, anchored, acceptsPieces_iff, spells_append, spells_chars]
      constructor
      · rintro ⟨_, after, whole, ⟨_, found, rfl, rfl, spelled⟩, last⟩
        exact ⟨_, found, after, whole, rfl, spelled, (tail whole).mp last⟩
      · rintro ⟨_, found, after, whole, rfl, spelled, ends⟩
        exact ⟨_, after, whole, ⟨_, found, rfl, rfl, spelled⟩, (tail whole).mpr ends⟩
  | none =>
      simp only [accepts, anchored, Bool.or_eq_true, acceptsBehindSlash_iff, acceptsPieces_iff]
      constructor
      · rintro (⟨found, after, whole, spelled, last⟩
          | ⟨above, _, whole, found, after, rfl, spelled, last⟩)
        · exact ⟨[], found, after, by simpa using whole, .inl rfl, spelled, (tail whole).mp last⟩
        · have parts : path = above ++ ['/'] ++ found ++ after := by simpa using whole
          exact ⟨above ++ ['/'], found, after, parts, .inr ⟨above, rfl⟩, spelled,
            (tail parts).mp last⟩
      · rintro ⟨before, found, after, whole, rfl | ⟨above, rfl⟩, spelled, ends⟩
        · exact .inl ⟨found, after, by simpa using whole, spelled, (tail whole).mpr ends⟩
        · exact .inr ⟨above, found ++ after, by simpa using whole, found, after, rfl, spelled,
            (tail whole).mpr ends⟩

-----------------------------------------------------------------------------------------
-- Literals
-----------------------------------------------------------------------------------------

theorem occursIn_iff (part text : List Char) : occursIn part text = true ↔ part <:+: text := by
  induction text with
  | nil => simp [occursIn]
  | cons c rest ih =>
      rw [occursIn, Bool.or_eq_true, List.isPrefixOf_iff_prefix, ih, List.infix_cons_iff]

/-- Between two slashes, a text occurs in a path with a slash at both ends if it fills components
of the path. Witness: what is in front of the occurrence is empty or starts with the first of the
two slashes, and what follows it is empty or ends with the second.
-/
theorem slashed_infix_iff (text path : List Char)
    : '/' :: text ++ ['/'] <:+: '/' :: path ++ ['/']
      ↔ Finds none true (· = text) path := by
  constructor
  · rintro ⟨front, back, whole⟩
    have before : ∃ before, Begins none before
        ∧ before ++ text ++ '/' :: back = path ++ ['/'] := by
      cases front with
      | nil => exact ⟨[], .inl rfl, by simpa using whole⟩
      | cons c front =>
          obtain ⟨_, rest⟩ : c = '/' ∧ front ++ '/' :: (text ++ '/' :: back) = path ++ ['/'] := by
            simpa using whole
          exact ⟨front ++ ['/'], .inr ⟨front, rfl⟩, by simpa using rest⟩
    obtain ⟨before, begins, rest⟩ := before
    rcases List.eq_nil_or_concat back with rfl | ⟨under, last, rfl⟩
    · refine ⟨before, text, [], ?_, begins, rfl, .inl rfl⟩
      simpa using (List.append_inj_left' rest rfl).symm
    · rw [List.concat_eq_append, ← List.cons_append, ← List.append_assoc] at rest
      refine ⟨before, text, '/' :: under, ?_, begins, rfl, .inr ⟨rfl, under, rfl⟩⟩
      exact (List.append_inj_left' rest rfl).symm
  · rintro ⟨before, found, after, rfl, begins, same, ends⟩
    obtain ⟨front, first⟩ : ∃ front, '/' :: before = front ++ ['/'] := by
      rcases begins with rfl | ⟨above, rfl⟩
      · exact ⟨[], rfl⟩
      · exact ⟨'/' :: above, rfl⟩
    obtain ⟨back, last⟩ : ∃ back, after ++ ['/'] = '/' :: back := by
      rcases ends with rfl | ⟨_, under, rfl⟩
      · exact ⟨[], rfl⟩
      · exact ⟨under ++ ['/'], rfl⟩
    refine ⟨front, back, ?_⟩
    calc front ++ ('/' :: text ++ ['/']) ++ back
        = (front ++ ['/']) ++ found ++ ('/' :: back) := by simp [show found = text from same]
      _ = '/' :: (before ++ found ++ after) ++ ['/'] := by simp [← first, ← last]

/-- A literal accepts a path if its text is found there. -/
theorem Literal.accepts_iff (l : Literal) (path : List Char)
    : l.accepts path = true ↔ Finds l.anchor l.below (· = l.text) path := by
  cases anchored : l.anchor with
  | some start =>
      simp only [accepts, anchored, Bool.or_eq_true, Bool.and_eq_true, decide_eq_true_eq,
        List.isPrefixOf_iff_prefix]
      constructor
      · rintro (rfl | ⟨below, under, rfl⟩)
        · exact ⟨_, l.text, [], by simp, rfl, rfl, .inl rfl⟩
        · exact ⟨_, l.text, '/' :: under, by simp, rfl, rfl, .inr ⟨below, under, rfl⟩⟩
      · rintro ⟨_, _, _, rfl, rfl, rfl, rfl | ⟨below, under, rfl⟩⟩
        · exact .inl (by simp)
        · exact .inr ⟨below, under, by simp⟩
  | none =>
      cases below : l.below with
      | true =>
          simp only [accepts, anchored, below, if_true, occursIn_iff]
          exact slashed_infix_iff l.text path
      | false =>
          simp only [accepts, anchored, below, Bool.false_eq_true, if_false, Bool.or_eq_true,
            decide_eq_true_eq, List.isSuffixOf_iff_suffix]
          constructor
          · rintro (rfl | ⟨above, rfl⟩)
            · exact ⟨[], l.text, [], by simp, .inl rfl, rfl, .inl rfl⟩
            · exact ⟨above ++ ['/'], l.text, [], by simp, .inr ⟨above, rfl⟩, rfl, .inl rfl⟩
          · rintro ⟨_, _, _, rfl, begins, rfl, rfl | ⟨contra, _⟩⟩
            · rcases begins with rfl | ⟨above, rfl⟩
              · exact .inl (by simp)
              · exact .inr ⟨above, by simp⟩
            · cases contra

end DirMarkers.Pattern
