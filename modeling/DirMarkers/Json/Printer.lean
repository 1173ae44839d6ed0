import DirMarkers.Json.Value
import DirMarkers.Text.Quoted

/-!
The text of a JSON value, laid out with one item a line and two blanks for each level. Only what
JSON forbids inside a string is escaped there.
-/

namespace DirMarkers.Json

/-- A character of a string: the short escape if there is one, the numeric escape for the other
control characters, and else the character itself.
-/
def escape (c : Char) : List Char :=
  if c = '"' then ['\\', '"']
  else if c = '\\' then ['\\', '\\']
  else if c = '\x08' then ['\\', 'b']
  else if c = '\t' then ['\\', 't']
  else if c = '\n' then ['\\', 'n']
  else if c = '\x0c' then ['\\', 'f']
  else if c = '\r' then ['\\', 'r']
  else if c.toNat < 0x20 then '\\' :: 'u' :: Text.hexDigits 4 c.toNat
  else [c]

def quoted (s : String) : List Char :=
  '"' :: s.toList.flatMap escape ++ ['"']

def newline (level : Nat) : List Char :=
  '\n' :: List.replicate (2 * level) ' '

mutual

/-- The text of a value whose first line stands at a level. -/
def render (level : Nat) : Json → List Char
  | .bool true => "true".toList
  | .bool false => "false".toList
  | .number n => Nat.toDigits 10 n
  | .string s => quoted s
  | .array [] => ['[', ']']
  | .array (item :: rest) =>
    '[' :: newline (level + 1) ++ render (level + 1) item ++ renderItems (level + 1) rest
      ++ newline level ++ [']']
  | .object [] => ['\x7b', '\x7d']
  | .object ((key, value) :: rest) =>
    '\x7b' :: newline (level + 1) ++ quoted key ++ ": ".toList ++ render (level + 1) value
      ++ renderFields (level + 1) rest ++ newline level ++ ['\x7d']

/-- The items of an array after the first. -/
def renderItems (level : Nat) : List Json → List Char
  | [] => []
  | item :: rest => ',' :: newline level ++ render level item ++ renderItems level rest

/-- The fields of an object after the first. -/
def renderFields (level : Nat) : List (String × Json) → List Char
  | [] => []
  | (key, value) :: rest =>
    ',' :: newline level ++ quoted key ++ ": ".toList ++ render level value
      ++ renderFields level rest

end

def text (json : Json) : String :=
  String.ofList (render 0 json)

end DirMarkers.Json
