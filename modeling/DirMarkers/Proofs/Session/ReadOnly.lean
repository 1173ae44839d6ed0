import DirMarkers.Proofs.CommandLine.Accepted
import DirMarkers.Proofs.Settings.Merging
import DirMarkers.Proofs.Walk.Stillness
import DirMarkers.Session

/-!
Sessions that are asked to change nothing. A flag of the command line counts before the settings
file, but each setting is looked at on its own: cleaning comes before checking even when the file
asks for the one and the command line for the other.
-/

namespace DirMarkers

open CommandLine (Arguments Switch Word)
open Settings (Says)
open SettingsFile (settingsOf)
open Yaml (Value)

namespace CommandLine.Arguments

/-- What the settings of a command line say about its flags and its report file. -/
theorem lookup_overrides {args : Arguments} {overrides : Overrides}
    (given : args.overrides? = some overrides)
    : overrides.lookup Setting.dryRun.name = some (yes args.dryRun)
      ∧ overrides.lookup Setting.clean.name = some (yes args.clean)
      ∧ overrides.lookup Setting.check.name = some (yes args.check)
      ∧ overrides.lookup Setting.reportFile.name = some (Arguments.given args.report) := by
  rw [overrides?] at given
  split at given
  · cases given
    exact ⟨rfl, rfl, rfl, rfl⟩
  · cases given
    exact ⟨rfl, rfl, rfl, rfl⟩
  · cases given

end CommandLine.Arguments

/-- A settings file asks for a cleaning that is more than a simulation. -/
structure FileSettings.AsksToClean (file : FileSettings) : Prop where
  clean : Says file .clean (.bool true)
  real : ¬ Says file .dryRun (.bool true)

namespace Session

/-- Neither the command line nor the settings file of the project names a file for the report. -/
structure NamesNoReport (scene : Scene) (args : Arguments) : Prop where
  flag : ∀ path, args.report = some (.text path) → path = ""
  file
    : ∀ path,
        Says (settingsOf scene.tree scene.here args.rootText) .reportFile (.string path)
        → path = ""

section

variable {scene : Scene} {args : Arguments} {overrides : Overrides} {order : CheckOrder}
  {config : Config} (given : args.overrides? = some overrides)
  (loaded
    : (SettingsFile.load scene.tree scene.here args.rootText overrides order).1 = .ok config)

include given loaded

/-- The configuration simulates if the command line asks for it, and also if the settings file does
while the command line is silent.
-/
theorem dryRun_of_asked
    (asked : args.dryRun = true
      ∨ Says (settingsOf scene.tree scene.here args.rootText) .dryRun (.bool true))
    : config.dryRun = true := by
  obtain ⟨path, yields⟩ := SettingsFile.load_yields loaded
  have said := (CommandLine.Arguments.lookup_overrides given).1
  have counts : Settings.merged (settingsOf scene.tree scene.here args.rootText) overrides .dryRun
      = .ok (.bool true) := by
    cases flag : args.dryRun with
    | true =>
        rw [flag] at said
        exact Settings.merged_of_override said rfl rfl _
    | false =>
        rcases asked with byFlag | byFile
        · cases flag.symm.trans byFlag
        · rw [flag] at said
          rw [Settings.merged_of_silent said, byFile]
          rfl
  have same := Except.ok.inj (yields.dryRun.symm.trans counts)
  simpa using same

/-- The configuration is for a check if the command line asks for one, unless the settings file
asks for a cleaning.
-/
theorem isReadOnly_of_check (one : args.HasOneMode) (flag : args.check = true)
    (kept : ¬ (settingsOf scene.tree scene.here args.rootText).AsksToClean)
    : config.IsReadOnly := by
  obtain ⟨path, yields⟩ := SettingsFile.load_yields loaded
  obtain ⟨_, cleanSaid, checkSaid, _⟩ := CommandLine.Arguments.lookup_overrides given
  obtain ⟨clean, check, cleanCounts, checkCounts, mode⟩ := yields.mode
  have noClean : args.clean = false := one.resolve_right (by simp [flag])
  rw [noClean] at cleanSaid
  rw [flag] at checkSaid
  cases checkCounts.symm.trans (Settings.merged_of_override checkSaid rfl rfl _)
  cases clean with
  | false => exact .inr mode
  | true =>
      rcases Settings.says_of_silent cleanSaid cleanCounts with said | isDefault
      · -- The file asks to clean, which it may do only together with a simulation.
        have simulates := Classical.not_not.mp fun real => kept ⟨said, real⟩
        exact .inl (dryRun_of_asked given loaded (.inr simulates))
      · cases isDefault

/-- The configuration names no file for a report if nothing names one. -/
theorem reportFile_of_silent (silent : NamesNoReport scene args)
    : config.reportFile = none ∨ config.reportFile = some "" := by
  obtain ⟨path, yields⟩ := SettingsFile.load_yields loaded
  obtain ⟨_, _, _, said⟩ := CommandLine.Arguments.lookup_overrides given
  have empty {value : Value}
      (counts : Settings.merged (settingsOf scene.tree scene.here args.rootText) overrides
        .reportFile = .ok value)
      (isEmpty : ∀ file, value = .string file → file = "")
      : config.reportFile = none ∨ config.reportFile = some "" := by
    have same := Except.ok.inj (yields.report.symm.trans counts)
    rcases Settings.eq_of_textOrNull same with ⟨none, _⟩ | ⟨file, some, spelled⟩
    · exact .inl none
    · exact .inr (some.trans (congrArg _ (isEmpty file spelled)))
  cases flag : args.report with
  | none =>
      rw [flag] at said
      refine empty yields.report fun file spelled => ?_
      rcases Settings.says_of_silent said yields.report with byFile | isDefault
      · rw [spelled] at byFile
        exact silent.file file byFile
      · cases spelled.symm.trans isDefault
  | some value =>
      rw [flag] at said
      cases value with
      | text file =>
          have counts := Settings.merged_of_override said rfl rfl
            (settingsOf scene.tree scene.here args.rootText)
          refine empty counts fun other spelled => ?_
          cases spelled
          exact silent.flag file flag
      | nothing =>
          have counts := Settings.merged_of_override said rfl rfl
            (settingsOf scene.tree scene.here args.rootText)
          exact empty counts fun other spelled => nomatch spelled

end

/-- A session that is to change nothing and to write no report leaves the disk as it was. -/
theorem perform_still {config : Config} (readOnly : config.IsReadOnly)
    (silent : config.reportFile = none ∨ config.reportFile = some "") (scene : Scene)
    : (perform scene config).tree = scene.tree := by
  have still := run_readOnly readOnly scene.faults scene.tree
  have unreported (summary : Summary)
      : report scene config summary (run config scene.faults scene.tree).tree
        = .ok ((run config scene.faults scene.tree).tree, []) := by
    rw [report]
    rcases silent with none | empty
    · rw [none]
    · rw [empty]
      rfl
  simp only [perform, unreported]
  cases (run config scene.faults scene.tree).answer with
  | error crash => exact still
  | ok isEmpty => exact still

/-- A session leaves the disk as it was if whatever configuration it loads is to change nothing and
names no report.
-/
theorem work_still {scene : Scene} {args : Arguments} {order : CheckOrder}
    (loads : ∀ {overrides config}, args.overrides? = some overrides
      → (SettingsFile.load scene.tree scene.here args.rootText overrides order).1 = .ok config
      → config.IsReadOnly ∧ (config.reportFile = none ∨ config.reportFile = some ""))
    : (work scene args order).tree = scene.tree := by
  rw [work]
  cases given : args.overrides? with
  | none => rfl
  | some overrides =>
      dsimp only
      cases loaded : (SettingsFile.load scene.tree scene.here args.rootText overrides order).1 with
      | error failure => cases failure <;> rfl
      | ok config =>
          obtain ⟨readOnly, silent⟩ := loads given loaded
          dsimp only
          split
          · rfl
          · rfl
          · exact perform_still readOnly silent scene

/-- A session whose command line holds `--check` or `--dry-run` leaves the disk as it was, whatever
its exit code, if nothing names a report; with `--check` alone, the settings file must not ask for a
real cleaning.
-/
theorem start_readOnly (scene : Scene) {words : List String}
    (asked : "--check" ∈ words ∨ "--dry-run" ∈ words)
    (silent : ∀ args, Arguments.parse words = .ok args → NamesNoReport scene args)
    (kept : "--dry-run" ∈ words ∨ ∀ args, Arguments.parse words = .ok args
      → ¬ (settingsOf scene.tree scene.here args.rootText).AsksToClean)
    (order : CheckOrder)
    : (start scene words order).tree = scene.tree := by
  rw [start]
  cases accepted : Arguments.parse words with
  | error ending => cases ending <;> rfl
  | ok args =>
      refine work_still fun given loaded => ⟨?_, ?_⟩
      · by_cases dry : "--dry-run" ∈ words
        · have flag : args.notes .dryRun = true :=
            CommandLine.Arguments.parse_notes accepted rfl rfl dry
          exact .inl (dryRun_of_asked given loaded (.inl flag))
        · have check := asked.resolve_right dry
          have flag : args.notes .check = true :=
            CommandLine.Arguments.parse_notes accepted rfl rfl check
          exact isReadOnly_of_check given loaded
            (CommandLine.Arguments.parse_hasOneMode accepted) flag
            (kept.resolve_left dry args accepted)
      · exact reportFile_of_silent given loaded (silent args accepted)

/-- The command line that asks for a check and says nothing else. -/
theorem parse_check {args : Arguments} (accepted : Arguments.parse ["--check"] = .ok args)
    : args = { check := true } := by
  have parsed : Arguments.parse ["--check"] = .ok { check := true } := rfl
  exact Except.ok.inj (accepted.symm.trans parsed)

/-- A session in the root of the small project. -/
def smallScene : Scene where
  tree := smallTree
  here := ["p"]
  faults := .none
  timestamp := ""

/-- A check of the small project, which has no settings file. -/
theorem start_readOnly_small : (start smallScene ["--check"]).tree = smallScene.tree := by
  refine start_readOnly smallScene (.inl List.mem_cons_self) ?_ (.inr ?_) .listed
  · intro args accepted
    obtain rfl := parse_check accepted
    have nothing : (Settings.fileValue? (settingsOf smallScene.tree smallScene.here ".")
      .reportFile).isNone = true := by decide +kernel
    refine ⟨nofun, fun path said => ?_⟩
    cases said.symm.trans (Option.isNone_iff_eq_none.mp nothing)
  · intro args accepted asks
    obtain rfl := parse_check accepted
    have nothing : (Settings.fileValue? (settingsOf smallScene.tree smallScene.here ".")
      .clean).isNone = true := by decide +kernel
    cases asks.clean.symm.trans (Option.isNone_iff_eq_none.mp nothing)

/-- A session in a project whose settings file asks for a cleaning. -/
def cleaningScene : Scene where
  tree := .dir [("p", .dir [
    (".gitkeepcfg", .file "clean: true\n".toUTF8),
    ("bare", .dir [(".gitkeep", .file .empty)])
  ])]
  here := ["p"]
  faults := .none
  timestamp := ""

/-- There, a check removes a marker. -/
theorem start_check_removes
    : (∀ args, Arguments.parse ["--check"] = .ok args → NamesNoReport cleaningScene args)
      ∧ (start cleaningScene ["--check"]).tree ≠ cleaningScene.tree := by
  constructor
  · intro args accepted
    obtain rfl := parse_check accepted
    have nothing : (Settings.fileValue? (settingsOf cleaningScene.tree cleaningScene.here ".")
      .reportFile).isNone = true := by decide +kernel
    refine ⟨nofun, fun path said => ?_⟩
    cases said.symm.trans (Option.isNone_iff_eq_none.mp nothing)
  · intro same
    have gone : ((start cleaningScene ["--check"]).tree.get? ["p", "bare", ".gitkeep"]).isNone
        = true := by
      decide +kernel
    rw [same] at gone
    cases gone

end Session

end DirMarkers
