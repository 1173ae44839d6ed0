import DirMarkers.Proofs.Run.Project
import DirMarkers.Proofs.Settings.Checking

/-!
The configurations that can be loaded. Every part of one is the value that counts of a setting, so
its mode is one that a run knows, and its marker has a plain file name.
-/

namespace DirMarkers

open Yaml (Obstacle Value)

namespace Settings

theorem eq_of_textOrNull {text? : Option String} {value : Value} (same : textOrNull text? = value)
    : (text? = none ∧ value = .null) ∨ ∃ text, text? = some text ∧ value = .string text := by
  cases text? with
  | none => exact .inl ⟨rfl, same.symm⟩
  | some text => exact .inr ⟨text, rfl, same.symm⟩

/-- A configuration is the one that the values of the settings make. -/
structure Yields (root : PathName) (value : Setting → Except Obstacle Value) (config : Config)
    : Prop where
  root : config.root = root
  dryRun : value .dryRun = .ok (.bool config.dryRun)
  mode
    : ∃ clean check, value .clean = .ok (.bool clean) ∧ value .check = .ok (.bool check)
      ∧ config.mode = modeOf clean check
  respects : value .respectGitkeepIgnore = .ok (.bool config.respectMarkerIgnore)
  content : value .content = .ok (.string config.markerContent)
  name : value .gitkeepName = .ok (.string config.markerName)
  report : value .reportFile = .ok (textOrNull config.reportFile)
  plain : isFileName config.markerName = true

/-- A configuration is made of the values of the settings. -/
theorem config_yields {order : CheckOrder} {root : PathName}
    {value : Setting → Except Obstacle Value} {config : Config}
    (made : Settings.config order root value = .ok config)
    : Yields root value config := by
  obtain ⟨dryRun, isDryRun, _, _, clean, isClean, check, isCheck, respects, isRespects, content,
    isContent, name, isName, report, isReport, _, _, plain, rfl⟩ :=
    compose_eq_ok_iff.mp (config_eq_ok_iff.mp made)
  exact {
    root := rfl
    dryRun := isDryRun
    mode := ⟨clean, check, isClean, isCheck, rfl⟩
    respects := isRespects
    content := isContent
    name := isName
    report := isReport
    plain := isFileName_iff.mpr plain
  }

theorem Yields.hasKnownMode {root : PathName} {value : Setting → Except Obstacle Value}
    {config : Config} (h : Yields root value config)
    : config.HasKnownMode := by
  obtain ⟨clean, check, _, _, mode⟩ := h.mode
  intro name unknown
  rw [mode] at unknown
  cases clean <;> cases check <;> cases unknown

/-- A plain file name without the character that ends a path is the name of an entry. -/
theorem isEntryName_of_plain {name : String} (plain : isFileName name = true)
    (noNul : holdsNul name = false)
    : IsEntryName name := by
  have h := isFileName_iff.mp plain
  refine ⟨h.notEmpty, h.notDot, h.notDots, h.noSlash, ?_⟩
  simpa only [holdsNul, List.contains_eq_mem, decide_eq_false_iff_not] using noNul

/-- A plain file name names an entry of a directory. -/
theorem join_of_plain {name : String} (plain : isFileName name = true) (path : PathName)
    : path.join name = path.child name := by
  have h := isFileName_iff.mp plain
  exact path.join_name h.noSlash h.notEmpty h.notDot

-----------------------------------------------------------------------------------------
-- Values that count
-----------------------------------------------------------------------------------------

/-- A settings file gives a setting a value. -/
def Says (file : FileSettings) (setting : Setting) (value : Value) : Prop :=
  fileValue? file setting = some (.ok value)

/-- What the command line says about a setting counts if it can be shown. -/
theorem merged_of_override {overrides : Overrides} {setting : Setting} {value : Value}
    (said : overrides.lookup setting.name = some value) (given : isGiven value = true)
    (shown : value.shown = .ok value) (file : FileSettings)
    : merged file overrides setting = .ok value := by
  rw [merged, override?, said, Option.filter_some, if_pos given]
  exact shown

/-- What the file says about a setting counts if the command line says nothing about it. -/
theorem merged_of_silent {overrides : Overrides} {setting : Setting}
    (silent : overrides.lookup setting.name = some .null) (file : FileSettings)
    : merged file overrides setting
      = (fileValue? file setting).getD (.ok setting.default) := by
  rw [merged, override?, silent]
  rfl

/-- A value that counts although the command line says nothing is of the file or the default. -/
theorem says_of_silent {overrides : Overrides} {setting : Setting} {value : Value}
    (silent : overrides.lookup setting.name = some .null) {file : FileSettings}
    (counts : merged file overrides setting = .ok value)
    : Says file setting value ∨ value = setting.default := by
  rw [merged_of_silent silent] at counts
  cases said : fileValue? file setting with
  | none =>
      rw [said] at counts
      exact .inr (Except.ok.inj counts).symm
  | some result =>
      rw [said] at counts
      exact .inl (said.trans (congrArg some counts))

/-- Whatever counts can be shown, be it of the command line, of the file or a default. -/
theorem shown_of_merged {file : FileSettings} {overrides : Overrides} {setting : Setting}
    {value : Value} (counts : merged file overrides setting = .ok value)
    : value.shown = .ok value := by
  rw [merged] at counts
  split at counts
  · cases Value.eq_of_shown counts
    exact counts
  · cases said : fileValue? file setting with
    | none =>
        rw [said] at counts
        cases counts
        exact setting.takes_default.shown
    | some result =>
        rw [said] at counts
        obtain ⟨entry, _, rfl⟩ := Option.map_eq_some_iff.mp said
        exact Yaml.Store.shownWithin_of_valueWithin counts

end Settings

-----------------------------------------------------------------------------------------
-- Loading
-----------------------------------------------------------------------------------------

namespace SettingsFile

/-- The settings that the file of a project holds; none if there is no file to be read. -/
def settingsOf (tree : Node) (here : Location) (root : String) : FileSettings :=
  match rootOf tree here root with
  | .error _ => {}
  | .ok path =>
    match read tree (path.child fileName) with
    | .ok (some settings) => settings
    | _ => {}

theorem build_yields {root : PathName} {file : FileSettings} {overrides : Overrides}
    {order : CheckOrder} {config : Config}
    (built : (build root file overrides order).1 = .ok config)
    : Settings.Yields root (Settings.merged file overrides) config := by
  rw [build] at built
  split at built
  · dsimp only at built
    cases made : Settings.config order root (Settings.merged file overrides) with
    | error error =>
        rw [made] at built
        cases built
    | ok loaded =>
        rw [made] at built
        cases built
        exact Settings.config_yields made
  · cases built

/-- A loaded configuration is made of the settings of the file and of the command line. -/
theorem load_yields {tree : Node} {here : Location} {root : String} {overrides : Overrides}
    {order : CheckOrder} {config : Config}
    (loaded : (load tree here root overrides order).1 = .ok config)
    : ∃ path, Settings.Yields path (Settings.merged (settingsOf tree here root) overrides)
        config := by
  rw [load] at loaded
  rw [settingsOf]
  cases found : rootOf tree here root with
  | error failure =>
      rw [found] at loaded
      cases loaded
  | ok path =>
      rw [found] at loaded
      refine ⟨path, ?_⟩
      dsimp only at loaded ⊢
      cases file : read tree (path.child fileName) with
      | error failure =>
          rw [file] at loaded
          cases loaded
      | ok settings? =>
          rw [file] at loaded
          cases settings? with
          | none => exact build_yields loaded
          | some settings => exact build_yields loaded

end SettingsFile

end DirMarkers
