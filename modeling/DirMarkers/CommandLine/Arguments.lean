import DirMarkers.CommandLine.Word
import DirMarkers.Settings
import DirMarkers.Text.Blank
import DirMarkers.Text.Lines

/-!
The arguments of a command line: what its switches say, and the settings that follow from it.
-/

namespace DirMarkers.CommandLine

/-- The value given to a switch. -/
inductive Given where
  | text (s : String)
  /-- A double dash attached to a name: no value after all. -/
  | nothing
deriving DecidableEq, Repr

namespace Given

def ofText (s : String) : Given :=
  if s = Word.terminator then .nothing else .text s

def value : Given → Yaml.Value
  | .text s => .string s
  | .nothing => .sequence []

end Given

/-- A switch that is used, with its value if it takes one. -/
structure Use where
  switch : Switch
  value : Option Given
deriving DecidableEq, Repr

namespace Named

/-- The uses in the characters behind a short name: a switch that takes a value takes all of them,
any other leaves them to the switch of the first one. A switch that still needs its value is given
back with them.
-/
def usesIn (switch : Switch) : List Char → Except UsageError (List Use × Option Switch)
  | [] => .ok (if switch.takesValue then ([], some switch) else ([⟨switch, none⟩], none))
  | c :: rest =>
    if switch.takesValue then
      .ok ([⟨switch, some (.ofText (String.ofList (c :: rest)))⟩], none)
    else
      match Switch.named? (String.ofList ['-', c]) with
      | none => .error (.excessValue switch (String.ofList (c :: rest)))
      | some next =>
        (usesIn next rest).map fun (uses, pending) => (⟨switch, none⟩ :: uses, pending)

/-- Whether a name is written with one dash. -/
def isShort (named : Named) : Bool :=
  named.name.toList[1]? != some '-'

/-- The switches that a word uses, and the one that still needs its value. -/
def uses (named : Named) : Except UsageError (List Use × Option Switch) :=
  match named.attached with
  | none => usesIn named.switch []
  | some text =>
    if named.switch.takesValue then .ok ([⟨named.switch, some (.ofText text)⟩], none)
    else if named.isShort && text != "" then usesIn named.switch text.toList
    else .error (.excessValue named.switch text)

end Named

/-- What a command line says. -/
structure Arguments where
  root : Option Given := none
  dryRun : Bool := false
  verbose : Bool := false
  report : Option Given := none
  content : Option Given := none
  clean : Bool := false
  check : Bool := false
  exclude : Option Given := none
  gitkeepName : Option Given := none
  noGitkeepIgnore : Bool := false
deriving DecidableEq, Repr

/-- Why a command line asks for no work. -/
inductive Ending where
  | help
  | version
  | refused (error : UsageError)
deriving DecidableEq, Repr

namespace Arguments

def use (args : Arguments) (u : Use) : Except Ending Arguments :=
  match u.switch with
  | .help => .error .help
  | .version => .error .version
  | .root => .ok { args with root := u.value }
  | .dryRun => .ok { args with dryRun := true }
  | .verbose => .ok { args with verbose := true }
  | .report => .ok { args with report := u.value }
  | .content => .ok { args with content := u.value }
  | .clean =>
    if args.check then .error (.refused (.conflict .clean .check))
    else .ok { args with clean := true }
  | .check =>
    if args.clean then .error (.refused (.conflict .check .clean))
    else .ok { args with check := true }
  | .exclude => .ok { args with exclude := u.value }
  | .gitkeepName => .ok { args with gitkeepName := u.value }
  | .noGitkeepIgnore => .ok { args with noGitkeepIgnore := true }

/-- Takes note of switches one after the other. -/
def useAll (args : Arguments) (uses : List Use) : Except Ending Arguments :=
  uses.foldlM use args

/-- Goes through the words of a command line, and keeps those that nothing can be done with. -/
def read (args : Arguments) : List Word → Except Ending (Arguments × List String)
  | [] => .ok (args, [])
  | .value text :: rest | .other text :: rest =>
    (read args rest).map fun (args, unused) => (args, text :: unused)
  | .naming named :: rest =>
    match named.uses, rest with
    | .error error, _ => .error (.refused error)
    | .ok (uses, none), rest =>
      match args.useAll uses with
      | .error ending => .error ending
      | .ok args => read args rest
    | .ok (uses, some switch), .value text :: rest =>
      match args.useAll (uses ++ [⟨switch, some (.text text)⟩]) with
      | .error ending => .error ending
      | .ok args => read args rest
    | .ok (_, some switch), _ => .error (.refused (.missingValue switch))

def parse (words : List String) : Except Ending Arguments :=
  match Word.ofTexts words with
  | .error error => .error (.refused error)
  | .ok words =>
    match read {} words with
    | .error ending => .error ending
    | .ok (args, []) => .ok args
    | .ok (_, unused) => .error (.refused (.unrecognized unused))

/-- The names in a list that is separated by commas. -/
def dirNames (text : String) : List String :=
  ((Text.split ',' text).map Text.trim).filter (· != "")

/-- The value of a switch that says yes, or nothing. -/
def yes (flag : Bool) : Yaml.Value :=
  if flag then .bool true else .null

/-- The value given to a switch, or nothing. -/
def given (value : Option Given) : Yaml.Value :=
  (value.map Given.value).getD .null

/-- The settings of a command line. There are none if directories are to be excluded and no value
says which.
-/
def overrides? (args : Arguments) : Option Overrides :=
  let settings := fun (dirs : Yaml.Value) => [
    (Setting.dryRun.name, yes args.dryRun),
    (Setting.verbose.name, yes args.verbose),
    (Setting.reportFile.name, given args.report),
    (Setting.content.name, given args.content),
    (Setting.clean.name, yes args.clean),
    (Setting.check.name, yes args.check),
    (Setting.excludeDirs.name, dirs),
    (Setting.gitkeepName.name, given args.gitkeepName),
    (Setting.respectGitkeepIgnore.name, if args.noGitkeepIgnore then .bool false else .null)
  ]
  match args.exclude with
  | none => some (settings .null)
  | some (.text text) => some (settings (.sequence ((dirNames text).map .string)))
  | some .nothing => none

/-- The project root that a command line names; the directory it is given in if it names none. -/
def rootText (args : Arguments) : String :=
  match args.root with
  | none | some .nothing | some (.text "") => "."
  | some (.text text) => text

end Arguments

end DirMarkers.CommandLine
