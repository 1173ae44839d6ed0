import DirMarkers.CommandLine.Arguments

/-!
Command lines that are accepted. In such a command line no word is overlooked: a word that is the
whole name of a switch is a use of that switch, and what was noted once is never taken back.
-/

namespace DirMarkers.CommandLine

/-- Whether a switch has no value and is noted when it is used. -/
def Switch.isFlag : Switch → Bool
  | .dryRun | .verbose | .clean | .check | .noGitkeepIgnore => true
  | _ => false

namespace Arguments

/-- Whether a switch without a value was used. -/
def notes (args : Arguments) : Switch → Bool
  | .dryRun => args.dryRun
  | .verbose => args.verbose
  | .clean => args.clean
  | .check => args.check
  | .noGitkeepIgnore => args.noGitkeepIgnore
  | _ => false

/-- At most one of the two modes was asked for. -/
def HasOneMode (args : Arguments) : Prop :=
  args.clean = false ∨ args.check = false

section

variable {args next : Arguments}

theorem use_notes {u : Use} (used : args.use u = .ok next) (flag : u.switch.isFlag = true)
    : next.notes u.switch = true := by
  obtain ⟨switch, value⟩ := u
  cases switch with
  | dryRun | verbose | noGitkeepIgnore =>
      cases used
      rfl
  | clean | check =>
      simp only [use] at used
      split at used
      · cases used
      · cases used
        rfl
  | _ => cases flag

/-- What was noted stays noted, by cases on the switch that is used next. -/
theorem use_keeps_notes (switch : Switch) {u : Use} (noted : args.notes switch = true)
    (used : args.use u = .ok next)
    : next.notes switch = true := by
  rw [use.eq_def] at used
  split at used
  · cases used
  · cases used
  · cases used
    exact noted
  · cases used
    cases switch <;> first | exact noted | rfl
  · cases used
    cases switch <;> first | exact noted | rfl
  · cases used
    exact noted
  · cases used
    exact noted
  · split at used
    · cases used
    · cases used
      cases switch <;> first | exact noted | rfl
  · split at used
    · cases used
    · cases used
      cases switch <;> first | exact noted | rfl
  · cases used
    exact noted
  · cases used
    exact noted
  · cases used
    cases switch <;> first | exact noted | rfl

/-- A second mode is refused, by cases on the switch that is used next. -/
theorem use_keeps_mode {u : Use} (one : args.HasOneMode) (used : args.use u = .ok next)
    : next.HasOneMode := by
  obtain ⟨switch, value⟩ := u
  cases switch with
  | help | version => cases used
  | clean =>
      simp only [use] at used
      split at used
      · cases used
      · next other =>
        cases used
        exact .inr (Bool.not_eq_true _ ▸ other)
  | check =>
      simp only [use] at used
      split at used
      · cases used
      · next other =>
        cases used
        exact .inl (Bool.not_eq_true _ ▸ other)
  | _ =>
      cases used
      exact one

end

-----------------------------------------------------------------------------------------
-- All words of a command line
-----------------------------------------------------------------------------------------

/-- How arguments come from the words of a command line, with the words that are of no use. -/
inductive Reads : Arguments → List Word → Arguments → List String → Prop
  | done {args} : Reads args [] args []
  | value {args text rest next unused} (later : Reads args rest next unused)
    : Reads args (.value text :: rest) next (text :: unused)
  | other {args text rest next unused} (later : Reads args rest next unused)
    : Reads args (.other text :: rest) next (text :: unused)
  | plain {args named rest uses middle next unused} (names : named.uses = .ok (uses, none))
    (used : useAll args uses = .ok middle) (later : Reads middle rest next unused)
    : Reads args (.naming named :: rest) next unused
  | valued {args named uses switch text rest middle next unused}
    (names : named.uses = .ok (uses, some switch))
    (used : useAll args (uses ++ [⟨switch, some (.text text)⟩]) = .ok middle)
    (later : Reads middle rest next unused)
    : Reads args (.naming named :: .value text :: rest) next unused

theorem reads_of_read {args next : Arguments} {words : List Word} {unused : List String}
    (accepted : read args words = .ok (next, unused))
    : Reads args words next unused := by
  fun_induction read args words generalizing unused with
  | case1 =>
      cases accepted
      exact .done
  | case2 args text rest ih =>
      cases later : read args rest with
      | error ending =>
          rw [later] at accepted
          cases accepted
      | ok result =>
          rw [later] at accepted
          cases accepted
          exact .value (ih later)
  | case3 args text rest ih =>
      cases later : read args rest with
      | error ending =>
          rw [later] at accepted
          cases accepted
      | ok result =>
          rw [later] at accepted
          cases accepted
          exact .other (ih later)
  | case4 => cases accepted
  | case5 => cases accepted
  | case6 args named uses rest names middle used ih => exact .plain names used (ih accepted)
  | case7 => cases accepted
  | case8 args named uses switch text rest names middle used ih =>
      exact .valued names used (ih accepted)
  | case9 => cases accepted

section

variable {P : Arguments → Prop} {args next : Arguments}
  (keeps : ∀ {args u next}, P args → use args u = .ok next → P next)

include keeps

theorem useAll_keeps {uses : List Use} (holds : P args) (used : args.useAll uses = .ok next)
    : P next := by
  induction uses generalizing args with
  | nil =>
      cases used
      exact holds
  | cons first rest ih =>
      rw [useAll, List.foldlM_cons] at used
      cases one : args.use first with
      | error ending =>
          rw [one] at used
          cases used
      | ok middle =>
          rw [one] at used
          exact ih (keeps holds one) used

/-- What every use of a switch keeps, all words keep. -/
theorem Reads.preserves {words : List Word} {unused : List String}
    (h : Reads args words next unused) (holds : P args)
    : P next := by
  induction h with
  | done => exact holds
  | value _ ih | other _ ih => exact ih holds
  | plain _ used _ ih | valued _ used _ ih => exact ih (useAll_keeps keeps holds used)

end

section

variable {args next : Arguments} {words : List Word} {unused : List String}

/-- A flag that is named is noted, since it stays noted until the last word. -/
theorem Reads.notes {named : Named} {switch : Switch} (h : Reads args words next unused)
    (member : .naming named ∈ words) (names : named.uses = .ok ([⟨switch, none⟩], none))
    (flag : switch.isFlag = true)
    : next.notes switch = true := by
  induction h with
  | done => cases member
  | value _ ih | other _ ih =>
      rcases List.mem_cons.mp member with same | later
      · cases same
      · exact ih later
  | @plain args first rest uses middle next unused own used later ih =>
      rcases List.mem_cons.mp member with same | below
      · cases same
        cases own.symm.trans names
        have noted : middle.notes switch = true := by
          cases one : args.use ⟨switch, none⟩ with
          | error ending =>
              rw [useAll, List.foldlM_cons, one] at used
              cases used
          | ok result =>
              rw [useAll, List.foldlM_cons, one] at used
              cases used
              exact use_notes one flag
        exact later.preserves (use_keeps_notes switch) noted
      · exact ih below
  | valued own _ _ ih =>
      rcases List.mem_cons.mp member with same | below
      · cases same
        cases own.symm.trans names
      · rcases List.mem_cons.mp below with same | later
        · cases same
        · exact ih later

theorem Reads.mem_unused {text : String} (h : Reads args words next unused)
    (member : .other text ∈ words)
    : text ∈ unused := by
  induction h with
  | done => cases member
  | value _ ih =>
      rcases List.mem_cons.mp member with same | later
      · cases same
      · exact List.mem_cons_of_mem _ (ih later)
  | other _ ih =>
      rcases List.mem_cons.mp member with same | later
      · cases same
        exact List.mem_cons_self
      · exact List.mem_cons_of_mem _ (ih later)
  | plain _ _ _ ih =>
      rcases List.mem_cons.mp member with same | later
      · cases same
      · exact ih later
  | valued _ _ _ ih =>
      rcases List.mem_cons.mp member with same | later
      · cases same
      · rcases List.mem_cons.mp later with same | after
        · cases same
        · exact ih after

end

-----------------------------------------------------------------------------------------
-- Accepted command lines
-----------------------------------------------------------------------------------------

/-- Every text is read as a word of its own, unless texts stand behind a terminator. -/
theorem mem_ofTexts {texts : List String} {words : List Word}
    (spelled : Word.ofTexts texts = .ok words) {text : String} (member : text ∈ texts)
    : (∃ unread, .other unread ∈ words) ∨ ∃ word ∈ words, Word.ofText text = .ok word := by
  induction texts generalizing words with
  | nil => cases member
  | cons first rest ih =>
      rw [Word.ofTexts] at spelled
      split at spelled
      · cases spelled
        exact .inl ⟨first, List.mem_cons_self⟩
      · cases own : Word.ofText first with
        | error error =>
            rw [own] at spelled
            cases spelled
        | ok word =>
            rw [own] at spelled
            cases later : Word.ofTexts rest with
            | error error =>
                rw [later] at spelled
                cases spelled
            | ok others =>
                rw [later] at spelled
                cases spelled
                rcases List.mem_cons.mp member with rfl | below
                · exact .inr ⟨word, List.mem_cons_self, own⟩
                · rcases ih later below with ⟨unread, inside⟩ | ⟨word, inside, same⟩
                  · exact .inl ⟨unread, List.mem_cons_of_mem _ inside⟩
                  · exact .inr ⟨word, List.mem_cons_of_mem _ inside, same⟩

section

variable {texts : List String} {args : Arguments}

/-- An accepted command line is read from its words, and all of them are of use. -/
theorem reads_of_parse (accepted : parse texts = .ok args)
    : ∃ words, Word.ofTexts texts = .ok words ∧ Reads {} words args [] := by
  rw [parse] at accepted
  cases spelled : Word.ofTexts texts with
  | error error =>
      rw [spelled] at accepted
      cases accepted
  | ok words =>
      rw [spelled] at accepted
      dsimp only at accepted
      refine ⟨words, rfl, ?_⟩
      cases result : Arguments.read {} words with
      | error ending =>
          rw [result] at accepted
          cases accepted
      | ok both =>
          obtain ⟨found, unused⟩ := both
          rw [result] at accepted
          cases unused with
          | nil =>
              cases accepted
              exact reads_of_read result
          | cons _ _ => cases accepted

/-- A command line that is accepted and holds the whole name of a flag notes that flag. -/
theorem parse_notes (accepted : parse texts = .ok args) {name : String} {switch : Switch}
    (whole : Word.ofText name = .ok (.naming ⟨name, switch, none⟩))
    (flag : switch.isFlag = true) (given : name ∈ texts)
    : args.notes switch = true := by
  obtain ⟨words, spelled, reads⟩ := reads_of_parse accepted
  rcases mem_ofTexts spelled given with ⟨unread, member⟩ | ⟨word, member, same⟩
  · cases reads.mem_unused member
  · cases whole.symm.trans same
    refine reads.notes member ?_ flag
    cases switch <;> first | rfl | cases flag

/-- A command line that is accepted asks for at most one of the two modes. -/
theorem parse_hasOneMode (accepted : parse texts = .ok args) : args.HasOneMode := by
  obtain ⟨words, _, reads⟩ := reads_of_parse accepted
  exact reads.preserves use_keeps_mode (.inl rfl)

end

end Arguments

end DirMarkers.CommandLine
