import DirMarkers.Proofs.Pattern.Components
import DirMarkers.Proofs.Pattern.Plain

/-!
What a pattern means, component by component. A segment fits single components, and a globstar
takes any number of them; the pieces of a pattern spell a text exactly when its segments cover the
components of that text.
-/

namespace DirMarkers.Pattern

/-- The texts that the tokens of a segment stand for: a star for any run of characters, a question
mark for one character, and any other token for its own.
-/
inductive Fits : List Token → List Char → Prop
  | nil : Fits [] []
  | star {rest text} (run : List Char) (next : Fits rest text) : Fits (.star :: rest) (run ++ text)
  | question {rest text} (c : Char) (next : Fits rest text) : Fits (.question :: rest) (c :: text)
  | char {t : Token} {rest text} (plain : t.isWildcard = false) (next : Fits rest text)
    : Fits (t :: rest) (t.char :: text)

/-- The components that segments stand for, one after another. A segment fits one component; a
globstar takes any number of components, and at least one if it is the last segment.
-/
inductive Covers : List (List Token) → List (List Char) → Prop
  | last {segment component} (ordinary : isGlobstar segment = false) (fits : Fits segment component)
    : Covers [segment] [component]
  | lastGlobstar {segment run} (globstar : isGlobstar segment = true) (some : run ≠ [])
    : Covers [segment] run
  | segment {segment next rest component others} (ordinary : isGlobstar segment = false)
    (fits : Fits segment component) (covers : Covers (next :: rest) others)
    : Covers (segment :: next :: rest) (component :: others)
  | globstar {segment next rest others} (globstar : isGlobstar segment = true)
    (run : List (List Char)) (covers : Covers (next :: rest) others)
    : Covers (segment :: next :: rest) (run ++ others)

/-- Segments cover at least one component: the last one does. -/
theorem Covers.ne_nil {segments : List (List Token)} {run : List (List Char)}
    (h : Covers segments run)
    : run ≠ [] := by
  induction h with
  | last _ _ => simp
  | lastGlobstar _ some => exact some
  | segment _ _ _ _ => simp
  | globstar _ run _ ih => exact List.append_ne_nil_of_right_ne_nil run ih

section

variable {segment next : List Token} {rest : List (List Token)} {run : List (List Char)}

theorem covers_last_iff (ordinary : isGlobstar segment = false)
    : Covers [segment] run ↔ ∃ component, run = [component] ∧ Fits segment component := by
  constructor
  · intro covers
    cases covers with
    | last _ fits => exact ⟨_, rfl, fits⟩
    | lastGlobstar globstar _ => cases ordinary.symm.trans globstar
  · rintro ⟨component, rfl, fits⟩
    exact .last ordinary fits

theorem covers_segment_iff (ordinary : isGlobstar segment = false)
    : Covers (segment :: next :: rest) run
      ↔ ∃ component others, run = component :: others ∧ Fits segment component
        ∧ Covers (next :: rest) others := by
  constructor
  · intro covers
    cases covers with
    | segment _ fits covers => exact ⟨_, _, rfl, fits, covers⟩
    | globstar globstar _ _ => cases ordinary.symm.trans globstar
  · rintro ⟨component, others, rfl, fits, covers⟩
    exact .segment ordinary fits covers

theorem covers_globstar_iff (globstar : isGlobstar segment = true)
    : Covers (segment :: next :: rest) run
      ↔ ∃ above others, run = above ++ others ∧ Covers (next :: rest) others := by
  constructor
  · intro covers
    cases covers with
    | segment ordinary _ _ => cases ordinary.symm.trans globstar
    | globstar _ above covers => exact ⟨above, _, rfl, covers⟩
  · rintro ⟨above, others, rfl, covers⟩
    exact .globstar globstar above covers

end

-----------------------------------------------------------------------------------------
-- Segments
-----------------------------------------------------------------------------------------

/-- The pieces of a segment spell the texts that it fits and that are no more than one component.
Witness: induction on the tokens of the segment, none of which is a slash.
-/
theorem spells_segment_iff {segment : List Token} (noSlash : ∀ t ∈ segment, t.char ≠ '/')
    (text : List Char)
    : Spells (segment.map Token.piece) text ↔ Fits segment text ∧ '/' ∉ text := by
  induction segment generalizing text with
  | nil =>
      constructor
      · rintro rfl
        exact ⟨.nil, by simp⟩
      · rintro ⟨fits, _⟩
        cases fits
        rfl
  | cons t rest ih =>
      obtain ⟨here, later⟩ := List.forall_mem_cons.mp noSlash
      constructor
      · rintro ⟨part, more, rfl, spelled, others⟩
        obtain ⟨fits, single⟩ := (ih later more).mp others
        by_cases star : t = .star
        · subst star
          have within : '/' ∉ part := spelled
          exact ⟨.star part fits, by simp [within, single]⟩
        by_cases question : t = .question
        · subst question
          obtain ⟨c, other, rfl⟩ := spelled
          exact ⟨.question c fits, by simp [single, Ne.symm other]⟩
        · have plain : t.isWildcard = false := by simp [Token.isWildcard, star, question]
          rw [t.piece_of_plain plain] at spelled
          obtain rfl : part = [t.char] := spelled
          exact ⟨.char plain fits, by simp [single, Ne.symm here]⟩
      · rintro ⟨fits, single⟩
        cases fits with
        | star run next =>
            rw [List.mem_append, not_or] at single
            exact ⟨run, _, rfl, single.1, (ih later _).mpr ⟨next, single.2⟩⟩
        | question c next =>
            rw [List.mem_cons, not_or] at single
            exact ⟨[c], _, rfl, ⟨c, Ne.symm single.1, rfl⟩, (ih later _).mpr ⟨next, single.2⟩⟩
        | char plain next =>
            rw [List.mem_cons, not_or] at single
            refine ⟨[t.char], _, rfl, ?_, (ih later _).mpr ⟨next, single.2⟩⟩
            rw [t.piece_of_plain plain]
            rfl

theorem spells_singleton (piece : Piece) (text : List Char)
    : Spells [piece] text ↔ piece.Spells text := by
  simp [Spells]

/-- The pieces of segments spell a text of one line if the segments cover its components. Witness:
induction on the segments. A segment in front of others ends at the first slash; a globstar there
ends at any slash, or takes nothing.
-/
theorem spells_segmentPieces_iff {segments : List (List Token)} (some : segments ≠ [])
    (noSlash : ∀ segment ∈ segments, ∀ t ∈ segment, t.char ≠ '/') {text : List Char}
    (oneLine : '\n' ∉ text)
    : Spells (segmentPieces segments) text ↔ Covers segments (components text) := by
  induction segments generalizing text with
  | nil => exact absurd rfl some
  | cons segment rest ih =>
      obtain ⟨here, later⟩ := List.forall_mem_cons.mp noSlash
      cases rest with
      | nil =>
          by_cases globstar : isGlobstar segment = true
          · rw [segmentPieces, if_pos globstar, spells_singleton]
            exact iff_of_true oneLine (.lastGlobstar globstar (components_ne_nil text))
          · rw [segmentPieces, if_neg globstar, spells_segment_iff here,
              covers_last_iff (Bool.eq_false_iff.mpr globstar)]
            constructor
            · rintro ⟨fits, single⟩
              exact ⟨text, components_of_noSlash single, fits⟩
            · rintro ⟨component, single, fits⟩
              obtain ⟨rfl, alone⟩ := components_eq_singleton.mp single
              exact ⟨fits, alone⟩
      | cons next rest =>
          have inside {text : List Char} := @ih (by simp) later text
          by_cases globstar : isGlobstar segment = true
          · rw [segmentPieces, if_pos globstar, covers_globstar_iff globstar]
            · constructor
              · rintro ⟨part, more, rfl, rfl | ⟨above, _, rfl⟩, spelled⟩
                · exact ⟨[], _, rfl, (inside oneLine).mp spelled⟩
                · have line : '\n' ∉ more := fun feed => oneLine (List.mem_append_right _ feed)
                  refine ⟨components above, components more, ?_, (inside line).mp spelled⟩
                  rw [List.append_assoc]
                  exact components_append_slash above more
              · rintro ⟨above, others, cut, covers⟩
                by_cases none : above = []
                · rw [none, List.nil_append] at cut
                  exact ⟨[], text, rfl, .inl rfl, (inside oneLine).mpr (cut ▸ covers)⟩
                · obtain ⟨before, after, rfl, _, rfl⟩ := cut_of_components cut none covers.ne_nil
                  have front : '\n' ∉ before := fun feed => oneLine (List.mem_append_left _ feed)
                  have back : '\n' ∉ after := fun feed => oneLine (by simp [feed])
                  refine ⟨before ++ ['/'], after, by simp, .inr ⟨before, front, rfl⟩, ?_⟩
                  exact (inside back).mpr covers
            · simp
          · rw [segmentPieces, if_neg globstar,
              covers_segment_iff (Bool.eq_false_iff.mpr globstar)]
            · simp only [spells_append, spells_segment_iff here, spells_singleton, Piece.Spells]
              constructor
              · rintro ⟨_, more, rfl, ⟨component, _, rfl, ⟨fits, single⟩, rfl⟩, spelled⟩
                have line : '\n' ∉ more := fun feed => oneLine (List.mem_append_right _ feed)
                refine ⟨component, components more, ?_, fits, (inside line).mp spelled⟩
                have cut := components_append_slash component more
                rw [components_of_noSlash single] at cut
                rw [List.append_assoc]
                exact cut
              · rintro ⟨component, others, cut, fits, covers⟩
                rw [← List.singleton_append] at cut
                obtain ⟨before, after, rfl, first, rfl⟩ :=
                  cut_of_components cut (by simp) covers.ne_nil
                obtain ⟨rfl, single⟩ := components_eq_singleton.mp first
                have back : '\n' ∉ after := fun feed => oneLine (by simp [feed])
                exact ⟨before ++ ['/'], after, by simp, ⟨before, ['/'], rfl, ⟨fits, single⟩, rfl⟩,
                  (inside back).mpr covers⟩
            · simp

-----------------------------------------------------------------------------------------
-- Places of a match
-----------------------------------------------------------------------------------------

/-- The components of the directory that holds an ignore file; the root has none. -/
def baseComponents (baseDir : String) : List (List Char) :=
  (DirPath.ofText baseDir).map String.toList

theorem baseComponents_eq (baseDir : String)
    : baseComponents baseDir = if baseDir = "." then [] else components baseDir.toList := by
  rw [baseComponents, DirPath.ofText]
  split
  · rfl
  · rw [Text.split, List.map_map]
    exact (List.map_congr_left fun part _ => String.toList_ofList).trans (List.map_id _)

/-- A match begins behind whole components: behind those of the directory that holds the ignore
file if it is anchored, and behind any otherwise.
-/
theorem begins_iff (anchored : Bool) (baseDir : String) {path : List Char}
    {cs : List (List Char)} (some : cs ≠ [])
    : (∃ before rest, path = before ++ rest ∧ Begins (anchorFor anchored baseDir) before
        ∧ components rest = cs)
      ↔ ∃ above, components path = above ++ cs
        ∧ (anchored = true → above = baseComponents baseDir) := by
  constructor
  · rintro ⟨before, rest, rfl, begins, rfl⟩
    cases anchored with
    | true =>
        obtain rfl : before = (anchorOf baseDir).toList := begins
        refine ⟨baseComponents baseDir, ?_, fun _ => rfl⟩
        rw [baseComponents_eq, anchorOf]
        split
        · rfl
        · rw [String.toList_append, List.append_assoc]
          exact components_append_slash baseDir.toList rest
    | false =>
        rcases begins with rfl | ⟨above, rfl⟩
        · exact ⟨[], rfl, nofun⟩
        · refine ⟨components above, ?_, nofun⟩
          rw [List.append_assoc]
          exact components_append_slash above rest
  · rintro ⟨above, cut, fixed⟩
    by_cases none : above = []
    · rw [none, List.nil_append] at cut
      refine ⟨[], path, rfl, ?_, cut⟩
      cases anchored with
      | false => exact .inl rfl
      | true =>
          have root := (fixed rfl).symm.trans none
          rw [baseComponents_eq] at root
          split at root
          · next here => simp [Begins, anchorFor, anchorOf, here]
          · exact absurd root (components_ne_nil _)
    · obtain ⟨before, rest, rfl, spelled, rfl⟩ := cut_of_components cut none some
      refine ⟨before ++ ['/'], rest, by simp, ?_, rfl⟩
      cases anchored with
      | false => exact .inr ⟨before, rfl⟩
      | true =>
          have same := spelled.trans (fixed rfl)
          rw [baseComponents_eq] at same
          split at same
          · exact absurd same (components_ne_nil _)
          · next elsewhere =>
            obtain rfl := components_inj same
            simp [Begins, anchorFor, anchorOf, elsewhere]

/-- A match ends in front of whole components, of which there are none unless it may stand for a
directory on the way.
-/
theorem ends_iff (below : Bool) {path : List Char} {cs : List (List Char)} (some : cs ≠ [])
    : (∃ found after, path = found ++ after ∧ components found = cs ∧ Ends below after)
      ↔ ∃ under, components path = cs ++ under ∧ (below = false → under = []) := by
  constructor
  · rintro ⟨found, after, rfl, rfl, rfl | ⟨directory, under, rfl⟩⟩
    · exact ⟨[], by simp, fun _ => rfl⟩
    · refine ⟨components under, components_append_slash found under, fun file => ?_⟩
      cases directory.symm.trans file
  · rintro ⟨under, cut, last⟩
    by_cases none : under = []
    · rw [none, List.append_nil] at cut
      exact ⟨path, [], by simp, cut, .inl rfl⟩
    · obtain ⟨found, after, rfl, spelled, _⟩ := cut_of_components cut some none
      have directory : below = true := by
        cases below with
        | true => rfl
        | false => exact absurd (last rfl) none
      exact ⟨found, '/' :: after, rfl, spelled, .inr ⟨directory, after, rfl⟩⟩

/-- A pattern matches a path if its segments cover components of it: those right below the
directory that holds the ignore file if the pattern is anchored, and the last ones of the path
unless the pattern is one of directories.
-/
def Matches (anchored below : Bool) (baseDir : String) (tokens : List Token) (path : List Char)
    : Prop :=
  ∃ above covered under, components path = above ++ covered ++ under
    ∧ Covers (segments tokens) covered
    ∧ (anchored = true → above = baseComponents baseDir)
    ∧ (below = false → under = [])

/-- A text that a pattern stands for is found where the segments of the pattern cover components. -/
theorem finds_pieces_iff (anchored below : Bool) (baseDir : String) {tokens : List Token}
    (slashes : ∀ t ∈ tokens, t.char = '/' → t = .separator) {path : List Char}
    (oneLine : '\n' ∉ path)
    : Finds (anchorFor anchored baseDir) below (Spells (pieces tokens)) path
      ↔ Matches anchored below baseDir tokens path := by
  have noSlash (segment : List Token) (member : segment ∈ segments tokens) (t : Token)
      (inside : t ∈ segment)
      : t.char ≠ '/' := by
    intro slash
    have separator := slashes t (mem_of_mem_segments member inside) slash
    exact notMem_of_mem_splitOn member (separator ▸ inside)
  have spells {text : List Char} (line : '\n' ∉ text)
      : Spells (pieces tokens) text ↔ Covers (segments tokens) (components text) :=
    spells_segmentPieces_iff (List.splitOn_ne_nil _ _) noSlash line
  constructor
  · rintro ⟨before, found, after, rfl, begins, spelled, ends⟩
    have line : '\n' ∉ found := fun feed => oneLine (by simp [feed])
    have covers := (spells line).mp spelled
    obtain ⟨under, tail, last⟩ := (ends_iff below covers.ne_nil).mp ⟨found, after, rfl, rfl, ends⟩
    obtain ⟨above, cut, fixed⟩ := (begins_iff anchored baseDir (components_ne_nil _)).mp
      ⟨before, found ++ after, List.append_assoc before found after, begins, rfl⟩
    exact ⟨above, _, under, by rw [cut, tail, List.append_assoc], covers, fixed, last⟩
  · rintro ⟨above, covered, under, cut, covers, fixed, last⟩
    rw [List.append_assoc] at cut
    obtain ⟨before, rest, rfl, begins, tail⟩ :=
      (begins_iff anchored baseDir (List.append_ne_nil_of_left_ne_nil covers.ne_nil under)).mpr
        ⟨above, cut, fixed⟩
    obtain ⟨found, after, rfl, rfl, ends⟩ :=
      (ends_iff below covers.ne_nil).mpr ⟨under, tail, last⟩
    have line : '\n' ∉ found := fun feed => oneLine (by simp [feed])
    exact ⟨before, found, after, (List.append_assoc ..).symm, begins, (spells line).mpr covers,
      ends⟩

end DirMarkers.Pattern
