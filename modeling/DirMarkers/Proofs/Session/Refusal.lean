import DirMarkers.Proofs.Settings.Escaping
import DirMarkers.Session

/-!
Sessions that are refused for an error of the configuration. Unless something stands in the way of
the error, every configuration that is none is reported in one line, and nothing else is done.
-/

namespace DirMarkers

open CommandLine (Arguments)
open SettingsFile (Escapes load load_eq_error_iff)

namespace Session

/-- A session is refused for an error of the configuration: a critical line about it is its last
notice, the exit code is that of a failure, and nothing is printed or changed.
-/
structure Refuses (scene : Scene) (error : ConfigError) (outcome : Outcome) : Prop where
  ending : outcome.ending = .ok failure
  last
    : outcome.notices.getLast?
      = some (.log ⟨.critical, "Configuration Error: " ++ error.message⟩)
  silent : outcome.output = ""
  still : outcome.tree = scene.tree

section

variable {scene : Scene} {words : List String} {args : Arguments} {overrides : Overrides}
  {order : CheckOrder} (accepted : Arguments.parse words = .ok args)
  (given : args.overrides? = some overrides)

include accepted given

/-- A session whose configuration has an error is refused for it. -/
theorem start_of_error {error : ConfigError}
    (loaded : (load scene.tree scene.here args.rootText overrides order).1
      = .error (.config error))
    : Refuses scene error (start scene words order) := by
  rw [start, accepted]
  simp only [work, given, loaded, fail]
  exact ⟨rfl, by simp, rfl, rfl⟩

/-- A session cannot choose its exit code if something else ends the loading. -/
theorem start_of_escapes {failure : LoadFailure}
    (escapes : Escapes scene.tree scene.here args.rootText overrides order failure)
    : (start scene words order).ending = .error (.load failure) := by
  have other := escapes.error?_eq_none
  have loaded := (load_eq_error_iff other).mpr escapes
  rw [start, accepted]
  simp only [work, given, loaded]
  cases failure with
  | config error => cases other
  | _ => rfl

end

/-- The error of the configuration that a loading ends with, if it does. -/
def errorOf? : Except LoadFailure Config → Option ConfigError
  | .error failure => failure.error?
  | .ok _ => none

theorem eq_error_of_errorOf? {loaded : Except LoadFailure Config} {error : ConfigError}
    (has : errorOf? loaded = some error)
    : loaded = .error (.config error) := by
  cases loaded with
  | ok config => cases has
  | error failure =>
      cases failure <;> cases has
      rfl

/-- Whether unknown keys that do not compare end a loading. -/
def isIncomparable : Except LoadFailure Config → Bool
  | .error .incomparableKeys => true
  | _ => false

theorem eq_error_of_isIncomparable {loaded : Except LoadFailure Config}
    (mixed : isIncomparable loaded = true)
    : loaded = .error .incomparableKeys := by
  cases loaded with
  | ok config => cases mixed
  | error failure =>
      cases failure <;> cases mixed
      rfl

/-- The settings of a command line without words. -/
def silentOverrides : Overrides :=
  (({} : Arguments).overrides?).getD []

/-- A session in a project whose settings file has a key that is no setting. -/
def typoScene : Scene where
  tree := .dir [("p", .dir [(".gitkeepcfg", .file "foo: 1\n".toUTF8)])]
  here := ["p"]
  faults := .none
  timestamp := ""

/-- A session in a project whose settings file has two such keys, a number and a text. -/
def mixedScene : Scene where
  tree := .dir [("p", .dir [(".gitkeepcfg", .file "1: a\nfoo: b\n".toUTF8)])]
  here := ["p"]
  faults := .none
  timestamp := ""

end Session

end DirMarkers
