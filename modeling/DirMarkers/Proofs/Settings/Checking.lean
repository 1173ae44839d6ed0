import DirMarkers.SettingsFile
import Mathlib.Data.List.Forall2

/-!
The checks of settings. A value that is of the kind of its setting can be shown and passes; since
one check comes after the other, only the first value that does not pass is told, in whatever order
they are checked.
-/

namespace DirMarkers

open Yaml (Atom Item Obstacle Store Value)

-----------------------------------------------------------------------------------------
-- Calls that may fail
-----------------------------------------------------------------------------------------

section

variable {ε ε' α β : Type}

theorem bind_eq_ok_iff {call : Except ε α} {next : α → Except ε β} {result : β}
    : (call >>= next) = .ok result ↔ ∃ a, call = .ok a ∧ next a = .ok result := by
  cases call <;> simp [bind, Except.bind]

theorem bind_eq_error_iff {call : Except ε α} {next : α → Except ε β} {error : ε}
    : (call >>= next) = .error error
      ↔ call = .error error ∨ ∃ a, call = .ok a ∧ next a = .error error := by
  cases call <;> simp [bind, Except.bind]

theorem then_eq_ok_iff {call : Except ε Unit} {next : Except ε α} {result : α}
    : (do call; next) = .ok result ↔ call = .ok () ∧ next = .ok result := by
  cases call <;> simp [bind, Except.bind]

theorem map_eq_ok_iff {call : Except ε α} {f : α → β} {result : β}
    : f <$> call = .ok result ↔ ∃ a, call = .ok a ∧ f a = result := by
  cases call <;> simp [Functor.map, Except.map]

theorem map_eq_error_iff {call : Except ε α} {f : α → β} {error : ε}
    : call.map f = .error error ↔ call = .error error := by
  cases call <;> simp [Except.map]

theorem pair_eq_ok_iff {first : Except ε α} {second : Except ε β} {result : α × β}
    : (do return (← first, ← second)) = .ok result
      ↔ first = .ok result.1 ∧ second = .ok result.2 := by
  cases first <;> cases second <;> simp [bind, Except.bind, pure, Except.pure, Prod.ext_iff]

theorem mapError_eq_ok_iff {call : Except ε α} {f : ε → ε'} {result : α}
    : call.mapError f = .ok result ↔ call = .ok result := by
  cases call <;> simp [Except.mapError]

theorem discard_eq_ok_iff {call : Except ε α}
    : discard call = .ok () ↔ ∃ a, call = .ok a := by
  cases call <;> simp [discard, Functor.mapConst, Except.map]

theorem discard_eq_error_iff {call : Except ε α} {error : ε}
    : discard call = .error error ↔ call = .error error := by
  cases call <;> simp [discard, Functor.mapConst, Except.map]

/-- Some items are mapped with success if each of them is. -/
theorem mapM_eq_ok_iff {call : α → Except ε β} {items : List α} {results : List β}
    : items.mapM call = .ok results
      ↔ List.Forall₂ (fun item result => call item = .ok result) items results := by
  induction items generalizing results with
  | nil => cases results <;> simp [pure, Except.pure]
  | cons item items ih => cases results <;> simp [bind_eq_ok_iff, ih, pure, Except.pure]

/-- Items of which each is mapped to itself are mapped to themselves. -/
theorem eq_of_mapM {call : α → Except ε α} {items results : List α}
    (each : ∀ item result, call item = .ok result → result = item)
    (mapped : items.mapM call = .ok results)
    : results = items := by
  have related := mapM_eq_ok_iff.mp mapped
  clear mapped
  induction related with
  | nil => rfl
  | cons first _ ih => rw [each _ _ first, ih]

/-- What some items are mapped to is mapped to itself if each result is. -/
theorem mapM_of_mapM {make : α → Except ε β} {again : β → Except ε β} {items : List α}
    {results : List β} (each : ∀ item result, make item = .ok result → again result = .ok result)
    (made : items.mapM make = .ok results)
    : results.mapM again = .ok results := by
  rw [mapM_eq_ok_iff] at made ⊢
  induction made with
  | nil => exact .nil
  | cons first _ ih => exact .cons (each _ _ first) ih

end

-----------------------------------------------------------------------------------------
-- Values that can be shown
-----------------------------------------------------------------------------------------

namespace Yaml

theorem Atom.eq_of_shownWithin {levels : Nat} {a b : Atom}
    (shown : a.shownWithin levels = .ok b)
    : b = a := by
  rw [shownWithin] at shown
  split at shown
  · cases shown
  · split at shown <;> cases shown
    rfl

/-- A value that can be shown is shown as it is, by induction on the levels, of which pairs take
two.
-/
theorem Value.eq_of_shownWithin {levels : Nat} {value other : Value}
    (shown : value.shownWithin levels = .ok other)
    : other = value := by
  induction levels using Nat.strongRecOn generalizing value other with
  | ind levels ih =>
      cases levels with
      | zero => simp [shownWithin] at shown
      | succ levels =>
          have inner {value other : Value} := @ih levels (by omega) value other
          cases value with
          | atom a =>
              obtain ⟨b, same, rfl⟩ := map_eq_ok_iff.mp shown
              rw [Atom.eq_of_shownWithin same]
          | sequence items =>
              obtain ⟨others, same, rfl⟩ := map_eq_ok_iff.mp shown
              rw [eq_of_mapM (fun _ _ => inner) same]
          | pairs items =>
              rw [shownWithin] at shown
              obtain ⟨others, same, rfl⟩ := map_eq_ok_iff.mp shown
              refine congrArg pairs (eq_of_mapM (fun pair other told => ?_) same)
              cases levels with
              | zero => simp at told
              | succ levels =>
                  obtain ⟨first, second⟩ := pair_eq_ok_iff.mp told
                  exact Prod.ext (ih levels (by omega) first) (ih levels (by omega) second)
          | mapping entries =>
              obtain ⟨others, same, rfl⟩ := map_eq_ok_iff.mp shown
              refine congrArg mapping (eq_of_mapM (fun entry other told => ?_) same)
              obtain ⟨key, item⟩ := pair_eq_ok_iff.mp told
              exact Prod.ext (Atom.eq_of_shownWithin key) (inner item)
          | set items =>
              obtain ⟨others, same, rfl⟩ := map_eq_ok_iff.mp shown
              rw [eq_of_mapM (fun _ _ => Atom.eq_of_shownWithin) same]
          | again isSequence =>
              cases shown
              rfl

theorem Value.eq_of_shown {value other : Value} (shown : value.shown = .ok other)
    : other = value :=
  eq_of_shownWithin shown

/-- What a part of a file is found to be can be shown with as many levels. -/
theorem Store.shownWithin_of_valueWithin {store : Store} {levels : Nat} {around : List Nat}
    {item : Item} {value : Value} (found : store.valueWithin levels around item = .ok value)
    : value.shownWithin levels = .ok value := by
  induction levels using Nat.strongRecOn generalizing around item value with
  | ind levels ih =>
      cases levels with
      | zero => simp [valueWithin] at found
      | succ levels =>
          have inner {around : List Nat} {item : Item} {value : Value} :=
            @ih levels (by omega) around item value
          have ofAtom {levels : Nat} {a b : Atom} (told : a.shownWithin levels = .ok b)
              : b.shownWithin levels = .ok b := by
            rwa [← Atom.eq_of_shownWithin told] at told
          cases item with
          | atom a =>
              obtain ⟨b, same, rfl⟩ := map_eq_ok_iff.mp found
              exact map_eq_ok_iff.mpr ⟨b, ofAtom same, rfl⟩
          | collection number =>
              rw [valueWithin] at found
              split at found
              · cases found
                rfl
              · next collection _ =>
                split at found
                · cases found
                  rfl
                · cases collection with
                  | sequence items =>
                      obtain ⟨values, made, rfl⟩ := map_eq_ok_iff.mp found
                      exact map_eq_ok_iff.mpr ⟨values, mapM_of_mapM (fun _ _ => inner) made, rfl⟩
                  | pairs items =>
                      obtain ⟨values, made, rfl⟩ := map_eq_ok_iff.mp found
                      rw [Value.shownWithin]
                      refine map_eq_ok_iff.mpr
                        ⟨values, mapM_of_mapM (fun pair value told => ?_) made, rfl⟩
                      cases levels with
                      | zero => simp at told
                      | succ levels =>
                          obtain ⟨first, second⟩ := pair_eq_ok_iff.mp told
                          exact pair_eq_ok_iff.mpr
                            ⟨ih levels (by omega) first, ih levels (by omega) second⟩
                  | mapping entries =>
                      obtain ⟨values, made, rfl⟩ := map_eq_ok_iff.mp found
                      refine map_eq_ok_iff.mpr
                        ⟨values, mapM_of_mapM (fun entry value told => ?_) made, rfl⟩
                      obtain ⟨key, item⟩ := pair_eq_ok_iff.mp told
                      exact pair_eq_ok_iff.mpr ⟨ofAtom key, inner item⟩
                  | set items =>
                      obtain ⟨values, made, rfl⟩ := map_eq_ok_iff.mp found
                      exact map_eq_ok_iff.mpr ⟨values, mapM_of_mapM (fun _ _ => ofAtom) made, rfl⟩

end Yaml

-----------------------------------------------------------------------------------------
-- Values of their kinds
-----------------------------------------------------------------------------------------

namespace Settings

/-- The value that spells a text that may be missing. -/
def textOrNull : Option String → Value
  | none => .null
  | some text => .string text

/-- A value is the list of some texts. A list of pairs is one if it is empty. -/
def Lists (value : Value) (names : List String) : Prop :=
  value = .sequence (names.map .string) ∨ value = .pairs [] ∧ names = []

/-- A name can be the name of a file in any directory. -/
structure IsPlainName (name : String) : Prop where
  notEmpty : name ≠ ""
  noSlash : '/' ∉ name.toList
  noBackslash : '\\' ∉ name.toList
  notDot : name ≠ "."
  notDots : name ≠ ".."

end Settings

/-- A value is of the kind that a setting has. -/
def Setting.Takes (value : Value) : Setting → Prop
  | .dryRun | .verbose | .clean | .check | .respectGitkeepIgnore => ∃ b, value = .bool b
  | .content | .gitkeepName => ∃ text, value = .string text
  | .reportFile => ∃ text?, value = Settings.textOrNull text?
  | .excludeDirs => ∃ names, Settings.Lists value names

/-- A value of the right kind has few levels and no numbers, so it can be shown. -/
theorem Setting.Takes.shown {setting : Setting} {value : Value} (takes : setting.Takes value)
    : value.shown = .ok value := by
  cases setting with
  | dryRun | verbose | clean | check | respectGitkeepIgnore | content | gitkeepName =>
      obtain ⟨_, rfl⟩ := takes
      rfl
  | reportFile =>
      obtain ⟨text?, rfl⟩ := takes
      cases text? <;> rfl
  | excludeDirs =>
      obtain ⟨names, rfl | ⟨rfl, _⟩⟩ := takes
      · refine map_eq_ok_iff.mpr ⟨_, mapM_eq_ok_iff.mpr (List.forall₂_same.mpr ?_), rfl⟩
        simp only [List.forall_mem_map]
        exact fun _ _ => rfl
      · rfl

/-- Every default is of the kind of its setting. -/
theorem Setting.takes_default (setting : Setting) : setting.Takes setting.default := by
  cases setting with
  | dryRun | verbose | clean | check | respectGitkeepIgnore | content | gitkeepName =>
      exact ⟨_, rfl⟩
  | reportFile => exact ⟨none, rfl⟩
  | excludeDirs => exact ⟨_, .inl rfl⟩

namespace Settings

theorem bool_eq_ok_iff {setting : Setting} {value : Value} {b : Bool}
    : bool setting value = .ok b ↔ value = .bool b := by
  constructor
  · intro passed
    rw [bool.eq_def] at passed
    split at passed <;> cases passed
    rfl
  · rintro rfl
    rfl

theorem string_eq_ok_iff {setting : Setting} {value : Value} {text : String}
    : string setting value = .ok text ↔ value = .string text := by
  constructor
  · intro passed
    rw [string.eq_def] at passed
    split at passed <;> cases passed
    rfl
  · rintro rfl
    rfl

theorem string?_eq_ok_iff {setting : Setting} {value : Value} {text? : Option String}
    : string? setting value = .ok text? ↔ value = textOrNull text? := by
  constructor
  · intro passed
    rw [string?.eq_def] at passed
    split at passed <;> cases passed <;> rfl
  · rintro rfl
    cases text? <;> rfl

/-- Values are all texts if and only if each of them spells one. -/
theorem mapM_text?_eq_some_iff {items : List Value} {names : List String}
    : items.mapM text? = some names ↔ items = names.map .string := by
  induction items generalizing names with
  | nil => cases names <;> simp
  | cons item rest ih =>
      have spelled (name : String) : text? item = some name ↔ item = .string name := by
        rw [text?.eq_def]
        split <;> simp_all [eq_comm]
      cases names with
      | nil => simp [Option.bind_eq_some_iff]
      | cons name names => simp [Option.bind_eq_some_iff, spelled, ih]

theorem dirNames_eq_ok_iff {value : Value} {names : List String}
    : dirNames value = .ok names ↔ Lists value names := by
  constructor
  · intro passed
    rw [dirNames.eq_def] at passed
    split at passed
    · split at passed <;> cases passed
      next read => exact .inl (congrArg _ (mapM_text?_eq_some_iff.mp read))
    · cases passed
      exact .inr ⟨rfl, rfl⟩
    · cases passed
  · rintro (rfl | ⟨rfl, rfl⟩)
    · rw [dirNames, mapM_text?_eq_some_iff.mpr rfl]
    · rfl

theorem isFileName_iff {name : String} : isFileName name = true ↔ IsPlainName name := by
  constructor
  · intro plain
    simp only [isFileName, Bool.and_eq_true, bne_iff_ne, ne_eq, Bool.not_eq_true',
      List.contains_eq_mem, decide_eq_false_iff_not] at plain
    obtain ⟨⟨⟨⟨notEmpty, noSlash⟩, noBackslash⟩, notDot⟩, notDots⟩ := plain
    exact ⟨notEmpty, noSlash, noBackslash, notDot, notDots⟩
  · rintro ⟨notEmpty, noSlash, noBackslash, notDot, notDots⟩
    simp [isFileName, notEmpty, noSlash, noBackslash, notDot, notDots]

/-- What passes is what a setting takes. -/
theorem verify_eq_ok_iff {setting : Setting} {value : Value}
    : verify setting value = .ok () ↔ setting.Takes value := by
  cases setting <;>
    simp [verify, Setting.Takes, discard_eq_ok_iff, bool_eq_ok_iff, string_eq_ok_iff,
      string?_eq_ok_iff, dirNames_eq_ok_iff]

/-- What does not pass is shown. -/
theorem verify_ne_unshown {setting : Setting} {value : Value} {obstacle : Obstacle}
    : verify setting value ≠ .error (.unshown obstacle) := by
  intro failed
  cases setting <;> rw [verify, discard_eq_error_iff] at failed
  case reportFile =>
    rw [string?.eq_def] at failed
    split at failed <;> cases failed
  case excludeDirs =>
    rw [dirNames.eq_def] at failed
    split at failed
    · split at failed <;> cases failed
    · cases failed
    · cases failed
  case content | gitkeepName =>
    rw [string.eq_def] at failed
    split at failed <;> cases failed
  all_goals
    rw [bool.eq_def] at failed
    split at failed <;> cases failed

-----------------------------------------------------------------------------------------
-- One check after the other
-----------------------------------------------------------------------------------------

/-- The values of some settings cannot all be checked: when those before it have passed, one is to
be reported and cannot be shown.
-/
inductive Obstructed (value : Setting → Except Obstacle Value) (obstacle : Obstacle)
    : List Setting → Prop
  | here {setting : Setting} {rest : List Setting} (unshown : value setting = .error obstacle)
    : Obstructed value obstacle (setting :: rest)
  | later {setting : Setting} {rest : List Setting} {shown : Value}
    (counts : value setting = .ok shown) (takes : setting.Takes shown)
    (obstructed : Obstructed value obstacle rest)
    : Obstructed value obstacle (setting :: rest)

section

variable {root : PathName} {value : Setting → Except Obstacle Value} {obstacle : Obstacle}
  {setting : Setting} {settings : List Setting} {config : Config}

theorem obstructed_cons_of_error {other : Obstacle} (counts : value setting = .error other)
    : Obstructed value obstacle (setting :: settings) ↔ other = obstacle := by
  constructor
  · rintro (unshown | also)
    · exact Except.error.inj (counts.symm.trans unshown)
    · cases counts.symm.trans also
  · rintro rfl
    exact .here counts

theorem obstructed_cons_of_ok {shown : Value} (counts : value setting = .ok shown)
    : Obstructed value obstacle (setting :: settings)
      ↔ setting.Takes shown ∧ Obstructed value obstacle settings := by
  constructor
  · rintro (unshown | ⟨also, takes, obstructed⟩)
    · cases counts.symm.trans unshown
    · cases counts.symm.trans also
      exact ⟨takes, obstructed⟩
  · exact fun ⟨takes, obstructed⟩ => .later counts takes obstructed

theorem verifyAll_cons
    : verifyAll value (setting :: settings) = (do
        let shown ← (value setting).mapError SettingsError.unshown
        verify setting shown
        verifyAll value settings) :=
  bind_assoc _ _ _

/-- All checks pass if and only if every value can be shown and is of its kind. -/
theorem verifyAll_eq_ok_iff
    : verifyAll value settings = .ok ()
      ↔ ∀ setting ∈ settings, ∃ shown, value setting = .ok shown ∧ setting.Takes shown := by
  induction settings with
  | nil => simp [verifyAll, List.forM, pure, Except.pure]
  | cons setting settings ih =>
      rw [verifyAll_cons, bind_eq_ok_iff, List.forall_mem_cons]
      simp only [mapError_eq_ok_iff, then_eq_ok_iff, verify_eq_ok_iff, ih, ← and_assoc,
        exists_and_right]

/-- The checks end at a value that cannot be shown if and only if all before it pass. -/
theorem verifyAll_eq_unshown_iff
    : verifyAll value settings = .error (.unshown obstacle)
      ↔ Obstructed value obstacle settings := by
  induction settings with
  | nil => exact iff_of_false nofun nofun
  | cons setting settings ih =>
      rw [verifyAll_cons]
      cases counts : value setting with
      | error other =>
          rw [obstructed_cons_of_error counts]
          simp [Except.mapError, bind, Except.bind]
      | ok shown =>
          rw [obstructed_cons_of_ok counts, ← verify_eq_ok_iff, ← ih]
          change (do verify setting shown; verifyAll value settings) = _ ↔ _
          cases verified : verify setting shown with
          | error error =>
              refine iff_of_false (fun failed => verify_ne_unshown (verified.trans failed)) ?_
              rintro ⟨passed, _⟩
              cases passed
          | ok => simp [bind, Except.bind]

/-- A value is looked at with success if it can be shown and passes. -/
theorem checked_eq_ok_iff {α β : Type} {value : Except Obstacle Value}
    {check : Value → Except SettingsError α} {next : α → Except SettingsError β} {result : β}
    : (do next (← check (← value.mapError SettingsError.unshown))) = .ok result
      ↔ ∃ a, (∃ shown, value = .ok shown ∧ check shown = .ok a) ∧ next a = .ok result := by
  simp only [bind_eq_ok_iff, mapError_eq_ok_iff]
  constructor
  · rintro ⟨shown, counts, a, checked, made⟩
    exact ⟨a, ⟨shown, counts, checked⟩, made⟩
  · rintro ⟨a, ⟨shown, counts, checked⟩, made⟩
    exact ⟨shown, counts, a, checked, made⟩

/-- A configuration is made if all values are of their kinds and the marker's name is plain. -/
theorem compose_eq_ok_iff
    : compose root value = .ok config
      ↔ ∃ dryRun, value .dryRun = .ok (.bool dryRun)
        ∧ ∃ verbose, value .verbose = .ok (.bool verbose)
        ∧ ∃ clean, value .clean = .ok (.bool clean)
        ∧ ∃ check, value .check = .ok (.bool check)
        ∧ ∃ respects, value .respectGitkeepIgnore = .ok (.bool respects)
        ∧ ∃ content, value .content = .ok (.string content)
        ∧ ∃ name, value .gitkeepName = .ok (.string name)
        ∧ ∃ report, value .reportFile = .ok (textOrNull report)
        ∧ ∃ names, (∃ list, value .excludeDirs = .ok list ∧ Lists list names)
        ∧ IsPlainName name
        ∧ config = {
            root := root
            mode := modeOf clean check
            dryRun := dryRun
            markerName := name
            markerContent := content
            excludeDirs := names.eraseDups
            respectMarkerIgnore := respects
            verbose := verbose
            reportFile := report
          } := by
  have last (name : String) (made : Config)
      : (if !isFileName name then Except.error (SettingsError.noFileName name) else pure made)
          = .ok config
        ↔ IsPlainName name ∧ config = made := by
    rw [← isFileName_iff]
    cases isFileName name <;> simp [pure, Except.pure, eq_comm]
  simp only [compose, checked_eq_ok_iff, bool_eq_ok_iff, string_eq_ok_iff, string?_eq_ok_iff,
    dirNames_eq_ok_iff, exists_eq_right, last]

/-- All values that a configuration is made of are of their kinds. -/
theorem takes_of_compose (made : compose root value = .ok config) (setting : Setting)
    : ∃ shown, value setting = .ok shown ∧ setting.Takes shown := by
  obtain ⟨dryRun, isDryRun, verbose, isVerbose, clean, isClean, check, isCheck, respects,
    isRespects, content, isContent, name, isName, report, isReport, names, ⟨list, isList, lists⟩,
    _⟩ := compose_eq_ok_iff.mp made
  cases setting with
  | dryRun => exact ⟨_, isDryRun, dryRun, rfl⟩
  | verbose => exact ⟨_, isVerbose, verbose, rfl⟩
  | reportFile => exact ⟨_, isReport, report, rfl⟩
  | content => exact ⟨_, isContent, content, rfl⟩
  | clean => exact ⟨_, isClean, clean, rfl⟩
  | check => exact ⟨_, isCheck, check, rfl⟩
  | excludeDirs => exact ⟨_, isList, names, lists⟩
  | gitkeepName => exact ⟨_, isName, name, rfl⟩
  | respectGitkeepIgnore => exact ⟨_, isRespects, respects, rfl⟩

/-- Values of their kinds make a configuration unless the marker's name is not plain. -/
theorem compose_ne_unshown
    (passed : ∀ setting : Setting, ∃ shown, value setting = .ok shown ∧ setting.Takes shown)
    : compose root value ≠ .error (.unshown obstacle) := by
  obtain ⟨_, isDryRun, dryRun, rfl⟩ := passed .dryRun
  obtain ⟨_, isVerbose, verbose, rfl⟩ := passed .verbose
  obtain ⟨_, isClean, clean, rfl⟩ := passed .clean
  obtain ⟨_, isCheck, check, rfl⟩ := passed .check
  obtain ⟨_, isRespects, respects, rfl⟩ := passed .respectGitkeepIgnore
  obtain ⟨_, isContent, content, rfl⟩ := passed .content
  obtain ⟨_, isName, name, rfl⟩ := passed .gitkeepName
  obtain ⟨_, isReport, report, rfl⟩ := passed .reportFile
  obtain ⟨list, isList, names, lists⟩ := passed .excludeDirs
  simp only [compose, isDryRun, isVerbose, isClean, isCheck, isRespects, isContent, isName,
    isReport, isList, Except.mapError, bind, Except.bind, bool_eq_ok_iff.mpr rfl,
    string_eq_ok_iff.mpr rfl, string?_eq_ok_iff.mpr rfl, dirNames_eq_ok_iff.mpr lists]
  split <;> nofun

end

end Settings

/-- Every setting is checked. -/
theorem CheckOrder.mem_settings (order : CheckOrder) (setting : Setting)
    : setting ∈ order.settings := by
  simp only [settings, List.mem_append, order.bools_perm.mem_iff, order.texts_perm.mem_iff]
  cases setting <;> decide

namespace Settings

section

variable {order : CheckOrder} {root : PathName} {value : Setting → Except Obstacle Value}

/-- The order in which values are checked does not matter to the configuration that they make. -/
theorem config_eq_ok_iff {config : Config}
    : Settings.config order root value = .ok config ↔ compose root value = .ok config := by
  rw [Settings.config, then_eq_ok_iff, verifyAll_eq_ok_iff]
  exact and_iff_right_of_imp fun made setting _ => takes_of_compose made setting

/-- A value that cannot be shown is told of if and only if it obstructs the checks in their order. -/
theorem config_eq_unshown_iff {obstacle : Obstacle}
    : Settings.config order root value = .error (.unshown obstacle)
      ↔ Obstructed value obstacle order.settings := by
  rw [← verifyAll_eq_unshown_iff, Settings.config]
  cases verified : verifyAll value order.settings with
  | error error => simp [bind, Except.bind]
  | ok =>
      have passed := verifyAll_eq_ok_iff.mp verified
      refine iff_of_false (compose_ne_unshown fun setting => ?_) nofun
      exact passed setting (order.mem_settings setting)

end

end Settings

end DirMarkers
