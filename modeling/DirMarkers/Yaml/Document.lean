import DirMarkers.Yaml.Listing
import DirMarkers.Yaml.Node
import DirMarkers.Yaml.Scalar
import DirMarkers.Yaml.Store

/-!
The values of a document. Every node has one value, which all its aliases share. A collection is
there, empty, as soon as its node is met, and gets its parts when those that were met before have
got theirs; so of several faults the one nearest to the top is found, and of those the first.

Merge keys put the entries of other mappings in front of those of their own mapping, once and for
all: a mapping that is merged twice has merged its own already.
-/

namespace DirMarkers.Yaml

/-- What is known of a document while its values are made: its nodes as merging leaves them, the
values of those that were met, and the collections with the nodes that they are made from.
-/
structure Making where
  nodes : Array Node
  made : Array (Option Item)
  store : Store := #[]
  origins : Array NodeId := #[]

abbrev Maker := StateT Making (Except Error)

namespace Maker

def fail {α : Type} (cause : Malformation) : Maker α :=
  throw (.malformed cause)

def node (id : NodeId) : Maker Node := do
  match (← get).nodes[id]? with
  | some node => return node
  | none => fail .undefinedAlias

/-- The entries of a mapping; a node of another kind has none. -/
def entriesOf (id : NodeId) : Maker (List Entry) := do
  match (← node id).content with
  | .mapping entries => return entries
  | _ => return []

def change (id : NodeId) (f : Node → Node) : Maker Unit :=
  modify fun m => { m with nodes := m.nodes.modify id f }

-----------------------------------------------------------------------------------------
-- Merging
-----------------------------------------------------------------------------------------

/-- Whether a node has the type of a scalar, whatever it consists of. -/
def hasType (type : ScalarType) (id : NodeId) : Maker Bool :=
  return (← node id).type = .scalar type

/-- Splits entries at the first one whose key merges. -/
def splitAtMerge : List Entry → Maker (List Entry × Option (NodeId × List Entry))
  | [] => return ([], none)
  | (key, value) :: rest => do
    if ← hasType .merge key then return ([], some (value, rest))
    else
      let (before, found) ← splitAtMerge rest
      return ((key, value) :: before, found)

/-- The entries of what is merged, which are flattened before. Of several mappings the first comes
last, so that its entries win.
-/
def mergedEntries (flatten : NodeId → Maker Unit) (id : NodeId) : Maker (List Entry) := do
  match (← node id).content with
  | .mapping _ =>
    flatten id
    entriesOf id
  | .sequence items =>
    items.foldlM (fun merged item => do
      match (← node item).content with
      | .mapping _ =>
        flatten item
        return (← entriesOf item) ++ merged
      | _ => fail .mergeOfOther) []
  | .scalar _ => fail .mergeOfOther

/-- Puts entries in front of those of a mapping. The keys of default values are texts from then on.
-/
def prepend (id : NodeId) (merged : List Entry) : Maker Unit := do
  let own ← entriesOf id
  for (key, _) in own do
    if ← hasType .default key then
      change key fun node => { node with type := .scalar .string }
  change id fun node => { node with content := .mapping (merged ++ own) }

/-- Takes the merge keys out of a mapping, from a place in its entries on, and gives back what they
bring in.
-/
def takeMerges (fuel : Nat) (id : NodeId) (place : Nat) : Maker (List Entry) := do
  match fuel with
  | 0 => return []
  | fuel + 1 =>
    let entries ← entriesOf id
    match ← splitAtMerge (entries.drop place) with
    | (_, none) => return []
    | (before, some (value, rest)) =>
      let own := entries.take place ++ before
      change id fun node => { node with content := .mapping (own ++ rest) }
      let merged ← mergedEntries (fun id => do prepend id (← takeMerges fuel id 0)) value
      return merged ++ (← takeMerges fuel id own.length)

/-- The number of merge keys, of which every one is taken out at most once. -/
def mergeCount : Maker Nat := do
  let nodes := (← get).nodes.toList
  let keys := nodes.flatMap fun node => match node.content with
    | .mapping entries => entries.map (·.1)
    | _ => []
  return (← keys.filterM (hasType .merge)).length

def flatten (id : NodeId) : Maker Unit := do
  prepend id (← takeMerges ((← mergeCount) + 1) id 0)

-----------------------------------------------------------------------------------------
-- Values
-----------------------------------------------------------------------------------------

/-- The text of a node that has to be a scalar. A mapping gives the text of its default value. -/
def scalarText (fuel : Nat) (id : NodeId) : Maker String := do
  match fuel with
  | 0 => throw .tooDeep
  | fuel + 1 =>
    match (← node id).content with
    | .scalar text => return text
    | .sequence _ => fail .wrongKind
    | .mapping entries =>
      match ← entries.findM? fun entry => hasType .default entry.1 with
      | some (_, value) => scalarText fuel value
      | none => fail .wrongKind

/-- The atom of a node that has to be a scalar of a type. -/
def atomOf (type : ScalarType) (id : NodeId) : Maker Atom := do
  let text ← scalarText ((← get).nodes.size + 1) id
  match type, (← node id).content with
  | .timestamp, .mapping _ => throw (.scalar .timestampWithoutText)
  | _, _ => liftExcept (scalarAtom (id + 1) type text)
where
  /-- A step that may fail and changes nothing. -/
  liftExcept {α : Type} (result : Except Error α) : Maker α :=
    match result with
    | .ok a => return a
    | .error e => throw e

/-- A collection without parts, which are still to come from a node. -/
def openCollection (id : NodeId) (empty : Collection) : Maker Item :=
  modifyGet fun m => (.collection m.store.size,
    { m with store := m.store.push empty, origins := m.origins.push id })

/-- The value of a node, which is made when it is asked for the first time. -/
def item (id : NodeId) : Maker Item := do
  match (← get).made[id]? with
  | some (some item) => return item
  | _ =>
    let item ← match (← node id).type with
      | .scalar type => Item.atom <$> atomOf type id
      | .sequence => openCollection id (.sequence [])
      | .mapping => openCollection id (.mapping [])
      | .set => openCollection id (.set [])
      | .orderedPairs | .pairs => openCollection id (.pairs [])
      | .unknown _ => fail .unknownType
    modify fun m => { m with made := m.made.setIfInBounds id (some item) }
    return item

/-- The key and value of an entry. A collection is no key. -/
def entry (e : Entry) : Maker (Atom × Item) := do
  match ← item e.1 with
  | .atom key => return (key, ← item e.2)
  | .collection _ => fail .collectionKey

/-- The entries of a mapping with what it merges. -/
def entries (id : NodeId) : Maker (List (Atom × Item)) := do
  match (← node id).content with
  | .mapping _ =>
    flatten id
    return Atom.mappingOf (← (← entriesOf id).mapM entry)
  | _ => fail .wrongKind

/-- A pair, which is written as a mapping of one entry. -/
def pair (id : NodeId) : Maker (Item × Item) := do
  match (← node id).content with
  | .mapping [(first, second)] => return (← item first, ← item second)
  | _ => fail .wrongKind

/-- The collection of the parts that a node of its type has. -/
def collection (id : NodeId) : Maker Collection := do
  let node ← node id
  match node.type, node.content with
  | .sequence, .sequence items => return .sequence (← items.mapM item)
  | .orderedPairs, .sequence items | .pairs, .sequence items => return .pairs (← items.mapM pair)
  | .mapping, _ => return .mapping (← entries id)
  | .set, _ => return .set (Listing.ofMembers ((← entries id).map (·.1)))
  | _, _ => fail .wrongKind

/-- Gives their parts to the collections from a number on, which may bring in more of them. There
are at most as many as there are nodes.
-/
def complete (fuel number : Nat) : Maker Unit := do
  match fuel, (← get).origins[number]? with
  | fuel + 1, some id =>
    let made ← collection id
    modify fun m => { m with store := m.store.setIfInBounds number made }
    complete fuel (number + 1)
  | _, _ => return ()

end Maker

/-- A document: its outermost value, and the collections in it. -/
structure Document where
  root : Item
  store : Store

def Document.ofGraph (graph : Graph) : Except Error Document :=
  let make : Maker Item := do
    let root ← Maker.item graph.root
    Maker.complete graph.nodes.size 0
    return root
  (make.run { nodes := graph.nodes, made := Array.replicate graph.nodes.size none }).map
    fun (root, made) => ⟨root, made.store⟩

/-- Reads a document. One without nodes is null. -/
def Document.ofSource (source : Source) : Except Error Document :=
  match Graph.ofTokens (Tokens.ofSource source) with
  | .error error => .error error
  | .ok none => .ok ⟨.atom .null, #[]⟩
  | .ok (some graph) => Document.ofGraph graph

end DirMarkers.Yaml
