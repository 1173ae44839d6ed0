import DirMarkers.Session
import DirMarkers.Tree.Difference
import Std.Time.Format

/-!
The program. It reads what is on the disk, works the session out, and makes the changes that the
session made to the tree. A change that the disk refuses is a fault, with which the session is
worked out anew.
-/

namespace DirMarkers.Program

abbrev FaultList := List ((Call × PathName) × Errno)

def errnoOf : IO.Error → Errno
  | .noFileOrDirectory .. => .notFound
  | .resourceBusy .. => .busy
  | .resourceExhausted .. => .noSpace
  | .inappropriateType _ code _ => if code = 21 then .isDirectory else .notDirectory
  | .invalidArgument _ code _ => if code = 36 then .nameTooLong else .linkLoop
  | .permissionDenied _ code _ =>
    if code = 1 then .notPermitted else if code = 30 then .readOnly else .accessDenied
  | .otherError code text =>
    if unnamed : code.toNat ∉ namedErrors then .other code.toNat text unnamed else .inputOutput
  | _ => .inputOutput

/-- The path of the disk that a text names. -/
def pathOf (text : String) :=
  (⟨⟨text⟩, ""⟩ : IO.FS.DirEntry).root

/-- The path of a location on the disk. -/
def diskPath (location : Location) : String :=
  "/" ++ "/".intercalate location

/-- What a walk over the disk finds. -/
structure Finding where
  node : Node
  faults : FaultList := []
  /-- Files that links lead to, at their own places. -/
  linked : List (Location × Node) := []

/-- Reads what is at a path of the disk and all that is below it. -/
partial def read (text : String) : IO Finding := do
  let path := pathOf text
  let name := PathName.ofText text
  let refused := fun (node : Node) (call : Call) (error : IO.Error) =>
    (pure { node := node, faults := [((call, name), errnoOf error)] } : IO Finding)
  match (← path.symlinkMetadata).type with
  | .dir =>
    try
      let children ← (← path.readDir).toList.mapM fun child => do
        return (child.fileName, ← read child.path.toString)
      return {
        node := .dir (children.foldl (fun entries (name, found) =>
          Entries.put name found.node entries) [])
        faults := children.flatMap (·.2.faults)
        linked := children.flatMap (·.2.linked)
      }
    catch error => refused (.dir []) .list error
  | .file =>
    try return { node := .file (← IO.FS.readBinFile path) }
    catch error => refused (.file ⟨#[]⟩) .read error
  | .symlink =>
    try
      let target ← IO.FS.realPath path
      if (← target.metadata).type == .file then
        let found ← read target.toString
        return {
          node := .link target.toString
          linked := [((PathName.ofText target.toString).parts, found.node)]
        }
      else return { node := .link target.toString }
    catch _ => return { node := .link "" }
  | .other => return { node := .link "" }

/-- Puts a node where the tree has none. -/
def fill (tree : Node) (location : Location) (node : Node) : Node :=
  if (tree.get? location).isSome then tree else Node.put node tree location

/-- The kind of what is at a path of the disk, without its content. -/
def shellAt (path : String) : IO (Option Node) := do
  try
    match (← (pathOf path).metadata).type with
    | .dir => return some (.dir [])
    | .file => return some (.file ⟨#[]⟩)
    | _ => return none
  catch _ => return none

/-- Adds what is on the disk along a path. -/
def addPath (tree : Node) (here : Location) (path : String) : IO Node := do
  let mut tree := tree
  let mut place := Tree.startOf here path
  for name in Tree.steps path do
    place := Tree.textStep place name
    if let some node ← shellAt (diskPath place) then
      tree := fill tree place node
  return tree

def timestamp : IO String := do
  let now := Std.Time.WallTime.ofTimestamp (← Std.Time.Timestamp.now) .zero
  return (Std.Time.PlainDateTime.ofWallTime now).format "uuuu-MM-dd'T'HH:mm:ss.SSSSSS" ++ "+00:00"

/-- The time of day as log lines show it. -/
def clock : IO String := do
  return (← Std.Time.PlainDateTime.now).format "HH:mm:ss"

def apply : Change → IO Unit
  | .write location content => IO.FS.writeBinFile (diskPath location) content
  | .remove location => IO.FS.removeFile (diskPath location)

/-- The fault that makes the disk refuse a change. -/
def faultOf (change : Change) (error : IO.Error) : (Call × PathName) × Errno :=
  let call := match change with
    | .write .. => Call.write
    | .remove _ => .remove
  ((call, ⟨.slash, change.location⟩), errnoOf error)

/-- Makes changes up to the first one that is refused. -/
def applyAll : List Change → IO (Option (((Call × PathName) × Errno) × IO.Error))
  | [] => return none
  | change :: rest => do
    try
      apply change
      applyAll rest
    catch error => return some (faultOf change error, error)

/-- Works a session out and brings the disk in line with it. -/
partial def settle (scene : Scene) (faults : FaultList) (args : CommandLine.Arguments)
    : IO Outcome := do
  let outcome := Session.work { scene with faults := Faults.ofList faults } args
  match ← applyAll (Node.changes [] scene.tree outcome.tree) with
  | none => return outcome
  | some (fault, error) =>
    if faults.contains fault then throw error
    else settle scene (faults ++ [fault]) args

/-- The tree with the project at its real path and what is on the way to the report. -/
def work (args : CommandLine.Arguments) : IO Outcome := do
  let here := (PathName.ofText (← IO.currentDir).toString).parts
  let mut tree := fill (.dir []) here (.dir [])
  let mut faults : FaultList := []
  let mut args := args
  if let some _ ← shellAt args.rootText then
    let root ← IO.FS.realPath args.rootText
    let found ← read root.toString
    let location := (PathName.ofText root.toString).parts
    tree := found.linked.foldl (fun tree (place, node) => fill tree place node)
      (Node.put found.node tree location)
    faults := found.faults
    args := { args with root := some (.text root.toString) }
  let overrides := args.overrides?.getD []
  if let .ok config := (SettingsFile.load tree here args.rootText overrides).1 then
    if let some report := config.reportFile then
      tree ← addPath tree here report
  settle ⟨tree, here, Faults.none, ← timestamp⟩ faults args

/-- Prints what a session printed, and gives its exit code. -/
def finish (outcome : Outcome) : IO UInt32 := do
  IO.print outcome.output
  let time ← clock
  for notice in outcome.notices do
    if let .usage _ := notice then
      IO.eprint (Report.unlines CommandLine.usageLines)
    IO.eprint (notice.text time)
  match outcome.ending with
  | .ok code => return code.toUInt32
  | .error abort =>
    IO.eprintln abort.message
    return Session.failure.toUInt32

end DirMarkers.Program

open DirMarkers in
/-- Runs the program with the words of its command line. -/
def main (words : List String) : IO UInt32 := do
  match CommandLine.Arguments.parse words with
  | .ok args => Program.finish (← Program.work args)
  | .error _ => Program.finish (Session.start ⟨.dir [], [], Faults.none, ""⟩ words)
