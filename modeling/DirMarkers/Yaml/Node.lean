import DirMarkers.Yaml.Plain
import DirMarkers.Yaml.Scan

/-!
The nodes of a document: scalars, sequences and mappings, each with its type. A node is read from
tokens and known by its number, so that an alias is the number of the node that it stands for, even
inside that node.
-/

namespace DirMarkers.Yaml

/-- The type of a node: one that a tag names or that goes without saying, or one that no document
knows.
-/
inductive NodeType where
  | scalar (type : ScalarType)
  | sequence
  | mapping
  | orderedPairs
  | pairs
  | set
  | unknown (tag : String)
deriving DecidableEq, Repr

def NodeType.ofTag (tag : String) : NodeType :=
  match tag with
  | "tag:yaml.org,2002:null" => .scalar .null
  | "tag:yaml.org,2002:bool" => .scalar .bool
  | "tag:yaml.org,2002:int" => .scalar .int
  | "tag:yaml.org,2002:float" => .scalar .float
  | "tag:yaml.org,2002:timestamp" => .scalar .timestamp
  | "tag:yaml.org,2002:str" => .scalar .string
  | "tag:yaml.org,2002:binary" => .scalar .bytes
  | "tag:yaml.org,2002:merge" => .scalar .merge
  | "tag:yaml.org,2002:value" => .scalar .default
  | "tag:yaml.org,2002:seq" => .sequence
  | "tag:yaml.org,2002:map" => .mapping
  | "tag:yaml.org,2002:omap" => .orderedPairs
  | "tag:yaml.org,2002:pairs" => .pairs
  | "tag:yaml.org,2002:set" => .set
  | tag => .unknown tag

/-- The number of a node. -/
abbrev NodeId := Nat

/-- A key and its value. -/
abbrev Entry := NodeId × NodeId

/-- What a node consists of. -/
inductive Content where
  | scalar (text : String)
  | sequence (items : List NodeId)
  | mapping (entries : List Entry)
deriving DecidableEq, Repr, Inhabited

/-- A node of a document. -/
structure Node where
  type : NodeType
  content : Content
deriving DecidableEq, Repr

/-- The nodes of a document by their numbers, and the outermost one. -/
structure Graph where
  nodes : Array Node
  root : NodeId
deriving Repr

/-- How many collections may be inside each other. -/
def nestingLimit : Nat :=
  -- Calls may be a thousand deep. Every collection takes two of them, one for itself and one for
  -- its parts; the others are those around the outermost node.
  (1000 - 24) / 2

/-- The tokens that are left, what was learnt from those before, and how many collections are around
the next of them.
-/
structure Reading where
  tokens : Tokens
  level : Nat := 0
  handles : List (String × String) := []
  anchors : List (String × NodeId) := []
  nodes : Array Node := #[]

abbrev Reader := StateT Reading (Except Error)

namespace Reader

/-- The next token, if there is one. It may be that none can be told. -/
def peek : Reader (Option Token) := do
  match (← get).tokens with
  | ⟨token :: _, _⟩ => return some token
  | ⟨[], none⟩ => return none
  | ⟨[], some error⟩ => throw error

def skip : Reader Unit :=
  modify fun r => { r with tokens := { r.tokens with told := r.tokens.told.drop 1 } }

/-- Passes the next token if it is the given one. -/
def skipIf (token : Token) : Reader Bool := do
  if (← peek) = some token then
    skip
    return true
  else return false

/-- Whether the next token is one of the given ones. -/
def atAny (tokens : List Token) : Reader Bool := do
  match ← peek with
  | some token => return tokens.contains token
  | none => return false

def fail {α : Type} (cause : Malformation) : Reader α :=
  throw (.malformed cause)

/-- Passes the given token, which has to be next. -/
def expect (token : Token) : Reader Unit := do
  unless ← skipIf token do fail .unexpectedToken

def add (node : Node) : Reader NodeId :=
  modifyGet fun r => (r.nodes.size, { r with nodes := r.nodes.push node })

/-- Adds a node with an anchor, if it has one. -/
def addAnchored (anchor : Option String) (node : Node) : Reader NodeId := do
  let id ← add node
  if let some name := anchor then
    modify fun r => { r with anchors := (name, id) :: r.anchors }
  return id

def fill (id : NodeId) (content : Content) : Reader NodeId := do
  modify fun r => { r with nodes := r.nodes.modify id fun node => { node with content := content } }
  return id

/-- The full tag of a handle and a suffix. -/
def fullTag (handle : Option String) (suffix : String) : Reader String := do
  match handle with
  | none => return suffix
  | some handle =>
    match (← get).handles.lookup handle with
    | some start => return start ++ suffix
    | none => fail .undefinedTagHandle

/-- Reads the content of a collection into its node. -/
def within (id : NodeId) (content : Reader Content) : Reader NodeId := do
  let level := (← get).level
  if level = nestingLimit then throw .tooDeep
  modify fun r => { r with level := level + 1 }
  let content ← content
  modify fun r => { r with level := level }
  fill id content

def anchor? : Reader (Option String) := do
  match ← peek with
  | some (.anchor name) =>
    skip
    return some name
  | _ => return none

def tag? : Reader (Option (Option String × String)) := do
  match ← peek with
  | some (.tag handle suffix) =>
    skip
    return some (handle, suffix)
  | _ => return none

/-- The anchor and tag of a node, in either order. -/
def properties : Reader (Option String × Option String) := do
  let before ← anchor?
  let tag ← tag?
  let anchor ← if before.isSome || tag.isNone then pure before else anchor?
  match tag with
  | none => return (anchor, none)
  | some (handle, suffix) => return (anchor, some (← fullTag handle suffix))

/-- The type of a node whose tag may leave it open. -/
def typeOf (tag : Option String) (default : NodeType) : NodeType :=
  match tag with
  | none | some "!" => default
  | some tag => .ofTag tag

/-- A scalar: one that is plain, or has the tag that makes it plain, spells its type. -/
def scalarOf (tag : Option String) (plain : Bool) (text : String) : Node :=
  let spelled := tag = some "!" || (plain && tag = none)
  ⟨typeOf tag (.scalar (if spelled then plainType text.toList else .string)), .scalar text⟩

/-- The node that stands where there is nothing. -/
def emptyNode : Reader NodeId :=
  add (scalarOf none true "")

mutual

/-- A node. Outside flow collections it may be a block collection, and where it is the value of a
key, a sequence without an indentation of its own.
-/
def node (fuel : Nat) (block indentless : Bool) : Reader NodeId := do
  match fuel with
  | 0 => fail .unexpectedToken
  | fuel + 1 =>
    match ← peek with
    | some (.alias name) =>
      skip
      match (← get).anchors.lookup name with
      | some id => return id
      | none => fail .undefinedAlias
    | _ =>
      let (anchor, tag) ← properties
      let next ← peek
      if let some name := anchor then
        if ((← get).anchors.lookup name).isSome then fail .duplicateAnchor
      let scalar := fun (plain : Bool) (text : String) =>
        addAnchored anchor (scalarOf tag plain text)
      let sequence := fun (items : Reader (List NodeId)) => do
        let id ← addAnchored anchor ⟨typeOf tag .sequence, .sequence []⟩
        within id (.sequence <$> items)
      let mapping := fun (entries : Reader (List Entry)) => do
        let id ← addAnchored anchor ⟨typeOf tag .mapping, .mapping []⟩
        within id (.mapping <$> entries)
      match next, block, indentless, anchor.isSome || tag.isSome with
      | some (.scalar plain text), _, _, _ => skip *> scalar plain text
      | some .flowSequence, _, _, _ => skip *> sequence (flowItems fuel true)
      | some .flowMapping, _, _, _ => skip *> mapping (flowEntries fuel true)
      | some .blockSequence, true, _, _ => skip *> sequence (blockItems fuel)
      | some .blockMapping, true, _, _ => skip *> mapping (blockEntries fuel)
      | some .blockEntry, _, true, _ => sequence (looseItems fuel)
      | _, _, _, true => scalar true ""
      | _, _, _, false => fail .unexpectedToken

/-- The node behind a mark, unless one of the given tokens ends it at once. -/
def nodeUnless (fuel : Nat) (ends : List Token) (block indentless : Bool) : Reader NodeId := do
  match fuel with
  | 0 => fail .unexpectedToken
  | fuel + 1 => if ← atAny ends then emptyNode else node fuel block indentless

/-- The items of a block sequence, up to its end. -/
def blockItems (fuel : Nat) : Reader (List NodeId) := do
  match fuel with
  | 0 => fail .unexpectedToken
  | fuel + 1 =>
    if ← skipIf .blockEntry then
      let item ← nodeUnless fuel [.blockEntry, .blockEnd] true false
      return item :: (← blockItems fuel)
    else
      expect .blockEnd
      return []

/-- The items of a sequence without an indentation of its own. -/
def looseItems (fuel : Nat) : Reader (List NodeId) := do
  match fuel with
  | 0 => fail .unexpectedToken
  | fuel + 1 =>
    if ← skipIf .blockEntry then
      let item ← nodeUnless fuel [.blockEntry, .key, .value, .blockEnd] true false
      return item :: (← looseItems fuel)
    else return []

/-- The value behind a colon, if one is next. -/
def valueOf (fuel : Nat) (ends : List Token) (block : Bool) : Reader NodeId := do
  match fuel with
  | 0 => fail .unexpectedToken
  | fuel + 1 =>
    if ← skipIf .value then nodeUnless fuel ends block block else emptyNode

/-- The entries of a block mapping, up to its end. -/
def blockEntries (fuel : Nat) : Reader (List Entry) := do
  match fuel with
  | 0 => fail .unexpectedToken
  | fuel + 1 =>
    if ← skipIf .key then
      let key ← nodeUnless fuel [.key, .value, .blockEnd] true true
      let value ← valueOf fuel [.key, .value, .blockEnd] true
      return (key, value) :: (← blockEntries fuel)
    else
      expect .blockEnd
      return []

/-- The items of a flow sequence, up to its end. A key with its value is a mapping of one entry. -/
def flowItems (fuel : Nat) (first : Bool) : Reader (List NodeId) := do
  match fuel with
  | 0 => fail .unexpectedToken
  | fuel + 1 =>
    if ← skipIf .flowSequenceEnd then return []
    else
      unless first do expect .flowEntry
      if ← skipIf .flowSequenceEnd then return []
      else
        let item ←
          if ← skipIf .key then do
            within (← add ⟨.mapping, .mapping []⟩) do
              let key ← nodeUnless fuel [.value, .flowEntry, .flowSequenceEnd] false false
              let value ← valueOf fuel [.flowEntry, .flowSequenceEnd] false
              return .mapping [(key, value)]
          else node fuel false false
        return item :: (← flowItems fuel false)

/-- The entries of a flow mapping, up to its end. A key may stand without a value. -/
def flowEntries (fuel : Nat) (first : Bool) : Reader (List Entry) := do
  match fuel with
  | 0 => fail .unexpectedToken
  | fuel + 1 =>
    if ← skipIf .flowMappingEnd then return []
    else
      unless first do expect .flowEntry
      if ← skipIf .flowMappingEnd then return []
      else
        let entry ←
          if ← skipIf .key then do
            let key ← nodeUnless fuel [.value, .flowEntry, .flowMappingEnd] false false
            let value ← valueOf fuel [.flowEntry, .flowMappingEnd] false
            pure (key, value)
          else do
            let key ← node fuel false false
            pure (key, ← emptyNode)
        return entry :: (← flowEntries fuel false)

end

/-- The directives in front of a document: at most one version, which has to be 1, and handles
that differ.
-/
def directives (fuel : Nat) (versioned : Bool) : Reader Unit := do
  match fuel with
  | 0 => fail .directive
  | fuel + 1 =>
    match ← peek with
    | some (.version major) =>
      skip
      if versioned || major != 1 then fail .directive
      directives fuel true
    | some (.tagHandle handle start) =>
      skip
      if ((← get).handles.lookup handle).isSome then fail .directive
      modify fun r => { r with handles := (handle, start) :: r.handles }
      directives fuel versioned
    | some .otherDirective =>
      skip
      directives fuel versioned
    | _ => return ()

def defaultHandles : List (String × String) :=
  [("!", "!"), ("!!", "tag:yaml.org,2002:")]

def addDefaultHandles : Reader Unit :=
  modify fun r => { r with handles := r.handles ++ defaultHandles }

/-- The node of a document that is marked by its start. -/
def explicitDocument (fuel : Nat) : Reader NodeId := do
  directives fuel false
  addDefaultHandles
  expect .documentStart
  match ← peek with
  | none | some .documentEnd | some .documentStart | some (.version _) | some (.tagHandle ..)
  | some .otherDirective => emptyNode
  | _ => node fuel true false

def skipEnds (fuel : Nat) : Reader Unit := do
  match fuel with
  | 0 => return ()
  | fuel + 1 => if ← skipIf .documentEnd then skipEnds fuel

/-- Requires that no second document follows. -/
def finish (fuel : Nat) : Reader Unit := do
  skipEnds fuel
  if (← peek).isSome then
    modify fun r => { r with handles := [] }
    directives fuel false
    expect .documentStart
    fail .secondDocument

/-- The outermost node; there is none in an empty text. -/
def document (fuel : Nat) : Reader (Option NodeId) := do
  match ← peek with
  | none => return none
  | some (.version _) | some (.tagHandle ..) | some .otherDirective | some .documentStart =>
    let root ← explicitDocument fuel
    finish fuel
    return some root
  | some _ =>
    addDefaultHandles
    let root ← node fuel true false
    finish fuel
    return some root

end Reader

/-- The nodes of a document; there are none in an empty text. -/
def Graph.ofTokens (tokens : Tokens) : Except Error (Option Graph) :=
  ((Reader.document (4 * tokens.told.length + 4)).run { tokens := tokens }).map
    fun (root, reading) => root.map fun root => ⟨reading.nodes, root⟩

end DirMarkers.Yaml
