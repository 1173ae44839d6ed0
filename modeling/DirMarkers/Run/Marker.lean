import DirMarkers.Config
import DirMarkers.Run.Step
import DirMarkers.Tree.Fault

/-!
Markers. What is to be done about the marker of a directory depends on the mode, on whether the
directory is empty, and on whether it has a marker; doing it is recorded whether or not it
succeeds.
-/

namespace DirMarkers

/-- What is to be done about a marker. -/
inductive Duty where
  | leave
  | create
  | remove
  /-- Report that the marker is missing. -/
  | reportMissing
  /-- Report that the marker should not be there. -/
  | reportSpare
deriving DecidableEq, Repr

namespace Marker

/-- What a mode does about the marker of a directory. -/
def duty (mode : Mode) (isEmpty hasMarker : Bool) : Except Crash Duty :=
  match mode with
  | .normal =>
    .ok (match isEmpty, hasMarker with
      | true, false => .create
      | false, true => .remove
      | _, _ => .leave)
  | .clean => .ok (if hasMarker then .remove else .leave)
  | .check =>
    .ok (match isEmpty, hasMarker with
      | true, false => .reportMissing
      | false, true => .reportSpare
      | _, _ => .leave)
  | .unknown name => .error (.unknownMode name)

/-- Creates the marker of a directory, or announces it in a dry run. -/
def create (config : Config) (faults : Faults) (path : PathName) (dir : DirPath) (tree : Node)
    : Step Unit :=
  let file := path.join config.markerName
  if config.dryRun then ⟨.ok (), tree, [.wouldCreate dir]⟩
  else
    match faults.crash? .write file, faults.write tree file config.markerContent.toUTF8 with
    | some crash, _ => ⟨.error crash, tree, []⟩
    | none, .ok tree => ⟨.ok (), tree, [.created dir]⟩
    | none, .error error => ⟨.ok (), tree, [.createFailed dir error]⟩

/-- Removes the marker of a directory, or announces it in a dry run. -/
def remove (config : Config) (faults : Faults) (path : PathName) (dir : DirPath) (tree : Node)
    : Step Unit :=
  let file := path.join config.markerName
  if config.dryRun then ⟨.ok (), tree, [.wouldRemove dir]⟩
  else
    match faults.crash? .remove file, faults.remove tree file with
    | some crash, _ => ⟨.error crash, tree, []⟩
    | none, .ok tree => ⟨.ok (), tree, [.removed dir]⟩
    | none, .error error => ⟨.ok (), tree, [.removeFailed dir error]⟩

/-- Does what is to be done about a marker. -/
def perform (config : Config) (faults : Faults) (path : PathName) (dir : DirPath) (tree : Node)
    : Duty → Step Unit
  | .leave => ⟨.ok (), tree, []⟩
  | .create => create config faults path dir tree
  | .remove => remove config faults path dir tree
  | .reportMissing => ⟨.ok (), tree, [.markerMissing dir]⟩
  | .reportSpare => ⟨.ok (), tree, [.markerSpare dir]⟩

/-- Brings the marker of a directory in line with what the directory is. -/
def settle (config : Config) (faults : Faults) (path : PathName) (dir : DirPath)
    (isEmpty hasMarker : Bool) (tree : Node) : Step Unit :=
  match duty config.mode isEmpty hasMarker with
  | .ok duty => perform config faults path dir tree duty
  | .error crash => ⟨.error crash, tree, []⟩

end Marker

end DirMarkers
