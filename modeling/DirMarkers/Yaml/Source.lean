import DirMarkers.Text.Lines
import DirMarkers.Text.Utf8
import DirMarkers.Yaml.Cursor

/-!
The text of a document as it is read, in helpings of so many characters, which are decoded from
blocks of so many bytes. What is wrong with a helping is noticed when it is asked for, and the two
first ones are asked for at once.
-/

namespace DirMarkers.Yaml

/-- The characters of a helping. -/
def helping : Nat :=
  4096

/-- The least bytes of a block. -/
def blockSize : Nat :=
  8192

/-- A text as far as it can be read, and what is wrong with what comes then. -/
structure Source where
  text : List Char
  fault : Option Error
deriving Repr

namespace Source

/-- How many characters can be read before the one with the given index is asked for, together
with all others of its helping.
-/
def readable (index : Nat) : Nat :=
  if index < 2 * helping then 0 else index / helping * helping

/-- The bytes at the start of a block that can be decoded; what may be the start of a character is
left for later.
-/
def decodeBlock (block : ByteArray) : Except Text.Utf8.Fault (String × Nat) :=
  match Text.Utf8.decode block with
  | .ok text => .ok (text, block.size)
  | .error fault =>
    if fault.isPending block then
      (Text.Utf8.decode (block.extract 0 fault.offset)).map fun text => (text, fault.offset)
    else .error fault

/-- Splits off a carriage return at the end, which may belong to the next line feed. -/
def holdReturn (text : List Char) : List Char × List Char :=
  if text.getLast? = some '\r' then (text.dropLast, ['\r']) else (text, [])

/-- The state of decoding: what is decoded, the carriage return that is held back, the bytes that
are used up and fetched, and the bytes and characters of the last block.
-/
structure Decoding where
  done : List Char := []
  held : List Char := []
  used : Nat := 0
  fetched : Nat := 0
  blockBytes : Nat := 0
  blockChars : Nat := 1

/-- The bytes of the next block: enough for the characters that are missing in the helping, if
they are as long as those of the last block.
-/
def Decoding.nextSize (d : Decoding) : Nat :=
  let missing := helping - d.done.length % helping
  max blockSize (max (d.blockBytes * missing / d.blockChars) missing)

/-- Decodes all blocks that are left, up to the first fault. -/
def decodeBlocks (bytes : ByteArray) (budget : Nat) (d : Decoding)
    : List Char × Option Text.Utf8.Fault :=
  match budget with
  | 0 => (d.done, none)
  | budget + 1 =>
    if bytes.size ≤ d.fetched then
      match Text.Utf8.decode (bytes.extract d.used bytes.size) with
      | .ok _ => (d.done ++ Text.unifyNewlines d.held, none)
      | .error fault => (d.done, some fault)
    else
      let fetched := min bytes.size (d.fetched + d.nextSize)
      match decodeBlock (bytes.extract d.used fetched) with
      | .error fault => (d.done, some fault)
      | .ok (text, count) =>
        let (text, held) := if text = "" then ([], d.held) else holdReturn (d.held ++ text.toList)
        let chars := Text.unifyNewlines text
        decodeBlocks bytes budget {
          done := d.done ++ chars
          held := held
          used := d.used + count
          fetched := fetched
          blockBytes := if chars = [] then 0 else fetched - d.fetched
          blockChars := max 1 chars.length
        }

/-- The text of some bytes. A helping whose bytes are no text is worse than one that holds a
character that no document may hold.
-/
def ofBytes (bytes : ByteArray) : Source :=
  let (chars, fault) := decodeBlocks bytes (bytes.size + 1) {}
  let ends := fault.map fun fault => (readable chars.length, Error.encoding fault)
  let stops := (chars.findIdx? (!isAllowed ·)).map fun index =>
    (readable index, Error.malformed .unprintable)
  match ends, stops with
  | none, none => ⟨chars, none⟩
  | some (count, error), none | none, some (count, error) => ⟨chars.take count, some error⟩
  | some (count, error), some (other, mark) =>
    if count ≤ other then ⟨chars.take count, some error⟩ else ⟨chars.take other, some mark⟩

end Source

end DirMarkers.Yaml
