import DirMarkers.PathName

/-!
The configuration of a run.
-/

namespace DirMarkers

/-- What a run does about a directory whose marker is not as it should be. -/
inductive Mode where
  /-- Creates and removes markers. -/
  | normal
  /-- Removes every marker. -/
  | clean
  /-- Reports the directory and changes nothing. -/
  | check
  /-- A mode that no run knows. -/
  | unknown (name : String)
deriving DecidableEq, Repr

/-- The settings that a run obeys. -/
structure Config where
  root : PathName
  mode : Mode := .normal
  /-- Announce changes to markers and make none. -/
  dryRun : Bool := false
  markerName : String := ".gitkeep"
  markerContent : String := ""
  /-- Names of directories that a run does not enter. -/
  excludeDirs : List String := []
  /-- Whether ignore files for markers count. -/
  respectMarkerIgnore : Bool := true
  verbose : Bool := false
  reportFile : Option String := none
deriving DecidableEq, Repr

namespace Config

/-- Whether the name of a directory keeps a run out of it. -/
def excludes (config : Config) (name : String) : Bool :=
  config.excludeDirs.contains name

/-- What a run is about to do, in words. -/
def task (config : Config) : String :=
  if config.dryRun then "Simulation (dry-run)"
  else match config.mode with
    | .clean => "Clean (remove every " ++ config.markerName ++ ")"
    | .check => "Check (no changes)"
    | .normal | .unknown _ => "Normal (create/remove " ++ config.markerName ++ ")"

end Config

end DirMarkers
