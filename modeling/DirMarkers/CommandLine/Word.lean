import DirMarkers.CommandLine.Switch
import DirMarkers.Text.Digit
import DirMarkers.Text.Quoted

/-!
The words of a command line. A word names a switch, perhaps with a value attached to the name, or
it can be the value of a switch, or it is of no use.
-/

namespace DirMarkers.CommandLine

/-- Why a command line is refused. -/
inductive UsageError where
  /-- A word that could be short for several names. -/
  | ambiguous (word : String) (names : List String)
  /-- A value for a switch that takes none. -/
  | excessValue (switch : Switch) (value : String)
  | missingValue (switch : Switch)
  /-- A switch that does not go with an earlier one. -/
  | conflict (switch earlier : Switch)
  | unrecognized (words : List String)
deriving DecidableEq, Repr

def UsageError.message : UsageError → String
  | .ambiguous word names =>
    "ambiguous option: " ++ word ++ " could match " ++ ", ".intercalate names
  | .excessValue switch value =>
    "argument " ++ switch.title ++ ": ignored explicit argument " ++ Text.quote value
  | .missingValue switch => "argument " ++ switch.title ++ ": expected one argument"
  | .conflict switch earlier =>
    "argument " ++ switch.title ++ ": not allowed with argument " ++ earlier.title
  | .unrecognized words => "unrecognized arguments: " ++ " ".intercalate words

/-- A switch under one of its names, with the value attached to the name. -/
structure Named where
  name : String
  switch : Switch
  attached : Option String
deriving DecidableEq, Repr

/-- A word of a command line. -/
inductive Word where
  | naming (named : Named)
  /-- A word that a switch can take for its value. -/
  | value (text : String)
  /-- A word that is neither. -/
  | other (text : String)
deriving DecidableEq, Repr

/-- Cuts a text at its first equals sign. -/
def cutEquals? (text : List Char) : Option (List Char × List Char) :=
  match text.dropWhile (· != '=') with
  | [] => none
  | _ :: after => some (text.takeWhile (· != '='), after)

namespace Named

/-- The names that a long name may be short for, each with the same attached value. -/
def ofAbbreviation (text : List Char) : List Named :=
  let (start, attached) := match cutEquals? text with
    | some (start, attached) => (start, some (String.ofList attached))
    | none => (text, none)
  (Switch.table.filter fun entry => start.isPrefixOf entry.1.toList).map fun (name, switch) =>
    ⟨name, switch, attached⟩

/-- The switch of a short name to which everything else in the word is attached. -/
def ofCluster (text : List Char) : List Named :=
  let name := String.ofList (text.take 2)
  ((Switch.named? name).map fun switch =>
    ⟨name, switch, some (String.ofList (text.drop 2))⟩).toList

/-- The switch of a whole name, with the value behind an equals sign if there is one. -/
def ofWhole? (text : List Char) : Option Named :=
  match Switch.named? (String.ofList text) with
  | some switch => some ⟨String.ofList text, switch, none⟩
  | none => do
    let (name, attached) ← cutEquals? text
    let switch ← Switch.named? (String.ofList name)
    return ⟨String.ofList name, switch, some (String.ofList attached)⟩

end Named

namespace Word

/-- Whether a text is one or more digits, with or without a line feed behind them. -/
def isDigits (text : List Char) : Bool :=
  let text := if text.getLast? = some '\n' then text.dropLast else text
  !text.isEmpty && text.all fun c => (Text.digitValue? c).isSome

/-- Whether a text is a number behind its minus sign: digits, perhaps with a point in front of the
last of them.
-/
def isNumber (text : List Char) : Bool :=
  let whole := text.takeWhile fun c => (Text.digitValue? c).isSome
  match text.drop whole.length with
  | '.' :: fraction => isDigits fraction
  | _ => isDigits text

/-- Reads a word of at least two characters behind a dash. A negative number, or a text with a
space in it, can be a value if it is no switch.
-/
def ofDashed (text : List Char) : Except UsageError Word :=
  match Named.ofWhole? text with
  | some named => .ok (.naming named)
  | none =>
    let candidates := if text[1]? = some '-' then Named.ofAbbreviation text
      else Named.ofCluster text
    match candidates with
    | [named] => .ok (.naming named)
    | [] =>
      if isNumber text.tail || text.contains ' ' then .ok (.value (String.ofList text))
      else .ok (.other (String.ofList text))
    | several => .error (.ambiguous (String.ofList text) (several.map Named.name))

def ofText (word : String) : Except UsageError Word :=
  match word.toList with
  | '-' :: c :: rest => ofDashed ('-' :: c :: rest)
  | _ => .ok (.value word)

/-- The word behind which no word is a switch. -/
def terminator : String :=
  "--"

def ofTexts : List String → Except UsageError (List Word)
  | [] => .ok []
  | word :: rest =>
    if word = terminator then .ok (.other word :: rest.map .other)
    else
      match ofText word with
      | .error error => .error error
      | .ok first => (ofTexts rest).map (first :: ·)

end Word

end DirMarkers.CommandLine
