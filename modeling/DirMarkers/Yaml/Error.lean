import DirMarkers.Calendar
import DirMarkers.Text.Quoted
import DirMarkers.Text.Utf8

/-!
What can be wrong with a document. A malformed document is no document at all; a faulty scalar is
well formed, but its text does not spell a value of its type.
-/

namespace DirMarkers.Yaml

/-- Why a text is no document. -/
inductive Malformation where
  /-- A character that no document may hold. -/
  | unprintable
  /-- A character that cannot start anything where it stands. -/
  | unexpectedCharacter
  /-- An entry, key or value where none may start. -/
  | misplacedEntry
  /-- A key without its colon. -/
  | missingColon
  | directive
  | anchorName
  | tagName
  /-- The header of a block scalar. -/
  | blockHeader
  /-- A quoted scalar without an end. -/
  | unclosedScalar
  | escapeSequence
  /-- A token where another one has to be. -/
  | unexpectedToken
  | secondDocument
  | undefinedTagHandle
  | undefinedAlias
  | duplicateAnchor
  /-- A tag that stands for no type. -/
  | unknownType
  /-- A node whose kind does not go with its type. -/
  | wrongKind
  /-- A collection as a key. -/
  | collectionKey
  /-- A merge of something that is no mapping. -/
  | mergeOfOther
  | binaryText
deriving DecidableEq, Repr

/-- Why a scalar has no value. -/
inductive ScalarFault where
  | calendar (fault : Calendar.Fault)
  /-- No timestamp at all. -/
  | timestamp
  /-- A timestamp that is spelled by no text. -/
  | timestampWithoutText
  | integer (base : Nat) (text : String)
  /-- A number of so many digits. -/
  | integerLength (digits : Nat)
  | number (text : String)
  /-- No text where a number has to be. -/
  | emptyNumber
  /-- More digits to the base sixty than a binary number can have. -/
  | sixtieths
  /-- A word that is no truth value. -/
  | truthWord (word : String)
  /-- A character number beyond Unicode. -/
  | character
  /-- A character number beyond the machine. -/
  | characterNumber
deriving DecidableEq, Repr

def ScalarFault.message : ScalarFault → String
  | .calendar fault => fault.message
  | .timestamp => "'NoneType' object has no attribute 'groupdict'"
  | .timestampWithoutText => "expected string or bytes-like object"
  | .integer base text =>
    "invalid literal for int() with base " ++ toString base ++ ": "
      ++ String.ofList ((Text.quote text).toList.take 200)
  | .integerLength digits =>
    "Exceeds the limit (4300 digits) for integer string conversion: value has " ++ toString digits
      ++ " digits; use sys.set_int_max_str_digits() to increase the limit"
  | .number text => "could not convert string to float: " ++ Text.quote text
  | .emptyNumber => "string index out of range"
  | .sixtieths => "int too large to convert to float"
  | .truthWord word => Text.quote word
  | .character => "chr() arg not in range(0x110000)"
  | .characterNumber => "Python int too large to convert to C int"

/-- What is wrong with a document. -/
inductive Error where
  | malformed (cause : Malformation)
  | scalar (fault : ScalarFault)
  /-- Bytes that are no text. -/
  | encoding (fault : Text.Utf8.Fault)
  /-- Nodes inside each other beyond all bounds. -/
  | tooDeep
deriving DecidableEq, Repr

/-- Where reading stopped, by the number of characters that were left, and why. -/
structure Stop where
  left : Nat
  error : Error
deriving DecidableEq, Repr

/-- Stops in front of some characters, for a reason that makes the document malformed. -/
def stopAt {α : Type} (rest : List Char) (cause : Malformation) : Except Stop α :=
  .error ⟨rest.length, .malformed cause⟩

end DirMarkers.Yaml
