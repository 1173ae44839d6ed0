import DirMarkers.Proofs.Tree.Entries

/-!
Well-formed trees, all of whose directories have orderly entries. Such a tree is determined by the
kinds of its nodes, and putting or removing a file changes the kind at one location only.
-/

namespace DirMarkers

/-- What a node is when nothing below it is looked at. -/
inductive Kind where
  | file (content : ByteArray)
  | link (target : String)
  | dir

namespace Node

/-- The kind of a node. -/
def kind : Node → Kind
  | .file content => .file content
  | .link target => .link target
  | .dir _ => .dir

theorem eq_dir_of_kind {node : Node} (isDir : node.kind = .dir)
    : ∃ entries, node = .dir entries := by
  cases node with
  | dir entries => exact ⟨entries, rfl⟩
  | file _ => cases isDir
  | link _ => cases isDir

/-- The kind of the node at a location; links are not followed. -/
def kindAt (tree : Node) (location : Location) : Option Kind :=
  (tree.get? location).map kind

mutual

/-- Every directory of a tree has orderly entries. -/
def WellFormed : Node → Prop
  | .dir entries => Entries.Orderly entries ∧ AllWellFormed entries
  | _ => True

/-- The nodes of some entries are well-formed. -/
def AllWellFormed : List (String × Node) → Prop
  | [] => True
  | (_, node) :: rest => node.WellFormed ∧ AllWellFormed rest

end

mutual

instance decidableWellFormed : (node : Node) → Decidable node.WellFormed
  | .dir entries =>
    letI := decidableAllWellFormed entries
    inferInstanceAs (Decidable (Entries.Orderly entries ∧ AllWellFormed entries))
  | .file _ => .isTrue trivial
  | .link _ => .isTrue trivial

instance decidableAllWellFormed
    : (entries : List (String × Node)) → Decidable (AllWellFormed entries)
  | [] => .isTrue trivial
  | (_, node) :: rest =>
    letI := decidableWellFormed node
    letI := decidableAllWellFormed rest
    inferInstanceAs (Decidable (node.WellFormed ∧ AllWellFormed rest))

end

/-- A property of nodes holds once it holds of every directory whose entries have it. -/
theorem induction {motive : Node → Prop} (file : ∀ content, motive (.file content))
    (link : ∀ target, motive (.link target))
    (dir : ∀ entries, (∀ entry ∈ entries, motive entry.2) → motive (.dir entries))
    : ∀ node, motive node
  | .file content => file content
  | .link target => link target
  | .dir entries => dir entries fun entry _ => induction file link dir entry.2
termination_by node => sizeOf node
decreasing_by
  have inside := List.sizeOf_lt_of_mem ‹entry ∈ entries›
  obtain ⟨name, node⟩ := entry
  simp only [Prod.mk.sizeOf_spec, Node.dir.sizeOf_spec] at *
  omega

theorem allWellFormed_iff {entries : List (String × Node)}
    : AllWellFormed entries ↔ ∀ entry ∈ entries, entry.2.WellFormed := by
  induction entries with
  | nil => simp [AllWellFormed]
  | cons entry rest ih => simp [AllWellFormed, ih]

theorem wellFormed_dir {entries : Entries}
    : (Node.dir entries).WellFormed
      ↔ Entries.Orderly entries ∧ ∀ entry ∈ entries, entry.2.WellFormed := by
  rw [WellFormed, allWellFormed_iff]

@[simp] theorem get?_nil (node : Node) : node.get? [] = some node := by
  cases node <;> rfl

theorem get?_cons (node : Node) (name : String) (rest : Location)
    : node.get? (name :: rest) = (Entries.find? node.entries name).bind (·.get? rest) := by
  cases node with
  | file _ => rfl
  | link _ => rfl
  | dir entries =>
      rw [get?, Node.entries]
      cases Entries.find? entries name <;> rfl

/-- Going on from a location is going on from the node that is there. -/
theorem get?_append (node : Node) (above below : Location)
    : node.get? (above ++ below) = (node.get? above).bind (·.get? below) := by
  induction above generalizing node with
  | nil => simp
  | cons name rest ih =>
      rw [List.cons_append, get?_cons, get?_cons]
      cases Entries.find? node.entries name with
      | none => rfl
      | some child => exact ih child

theorem get?_entry {tree : Node} {location : Location} {entries : Entries}
    (there : tree.get? location = some (.dir entries)) (name : String)
    : tree.get? (location ++ [name]) = Entries.find? entries name := by
  rw [get?_append, there, Option.bind_some, get?_cons]
  simp [Node.entries]

/-- What has entries is a directory. -/
theorem dir_of_get?_entry {tree : Node} {location : Location} {name : String} {node : Node}
    (there : tree.get? (location ++ [name]) = some node)
    : ∃ entries, tree.get? location = some (.dir entries)
      ∧ Entries.find? entries name = some node := by
  rw [get?_append] at there
  obtain ⟨around, found, below⟩ := Option.bind_eq_some_iff.mp there
  simp only [get?_cons, get?_nil] at below
  cases around with
  | dir entries => exact ⟨entries, found, by simpa [Node.entries] using below⟩
  | file _ => simp [Node.entries] at below
  | link _ => simp [Node.entries] at below

theorem WellFormed.child {entries : Entries} (h : (Node.dir entries).WellFormed) {name : String}
    {node : Node} (found : Entries.find? entries name = some node)
    : node.WellFormed :=
  (wellFormed_dir.mp h).2 _ (Entries.mem_of_find? found)

/-- Every node of a well-formed tree is well-formed, by induction on its location. -/
theorem WellFormed.at {tree : Node} (h : tree.WellFormed) {location : Location} {node : Node}
    (there : tree.get? location = some node)
    : node.WellFormed := by
  induction location generalizing tree with
  | nil => simpa using (Option.some.inj (get?_nil tree ▸ there)) ▸ h
  | cons name rest ih =>
      rw [get?_cons] at there
      obtain ⟨child, found, below⟩ := Option.bind_eq_some_iff.mp there
      cases tree with
      | dir entries => exact ih (h.child found) below
      | file _ => simp [Node.entries] at found
      | link _ => simp [Node.entries] at found

theorem WellFormed.orderly {tree : Node} (h : tree.WellFormed) {location : Location}
    {entries : Entries} (there : tree.get? location = some (.dir entries))
    : Entries.Orderly entries :=
  (wellFormed_dir.mp (h.at there)).1

theorem WellFormed.name {tree : Node} (h : tree.WellFormed) {location : Location}
    {name : String} {node : Node} (there : tree.get? (location ++ [name]) = some node)
    : IsEntryName name ∧ name.utf8ByteSize ≤ Tree.nameLimit := by
  obtain ⟨entries, around, found⟩ := dir_of_get?_entry there
  exact (h.orderly around).names _ (Entries.mem_of_find? found)

-----------------------------------------------------------------------------------------
-- Kinds determine a tree
-----------------------------------------------------------------------------------------

theorem kindAt_append {tree : Node} {location : Location} {node : Node}
    (there : tree.get? location = some node) (below : Location)
    : tree.kindAt (location ++ below) = node.kindAt below := by
  rw [kindAt, get?_append, there]
  rfl

theorem kindAt_eq_dir {tree : Node} {location : Location}
    : tree.kindAt location = some .dir ↔ ∃ entries, tree.get? location = some (.dir entries) := by
  rw [kindAt, Option.map_eq_some_iff]
  constructor
  · rintro ⟨node, there, same⟩
    cases node with
    | dir entries => exact ⟨entries, there⟩
    | file _ => cases same
    | link _ => cases same
  · rintro ⟨entries, there⟩
    exact ⟨_, there, rfl⟩

theorem kindAt_eq_file {tree : Node} {location : Location} {content : ByteArray}
    : tree.kindAt location = some (.file content)
      ↔ tree.get? location = some (.file content) := by
  rw [kindAt, Option.map_eq_some_iff]
  constructor
  · rintro ⟨node, there, same⟩
    cases node with
    | file _ => cases same; exact there
    | dir _ => cases same
    | link _ => cases same
  · intro there
    exact ⟨_, there, rfl⟩

theorem kindAt_eq_link {tree : Node} {location : Location} {target : String}
    : tree.kindAt location = some (.link target)
      ↔ tree.get? location = some (.link target) := by
  rw [kindAt, Option.map_eq_some_iff]
  constructor
  · rintro ⟨node, there, same⟩
    cases node with
    | link _ => cases same; exact there
    | dir _ => cases same
    | file _ => cases same
  · intro there
    exact ⟨_, there, rfl⟩

theorem kindAt_eq_none {tree : Node} {location : Location}
    : tree.kindAt location = none ↔ tree.get? location = none := by
  rw [kindAt, Option.map_eq_none_iff]

/-- What has something below it is a directory. -/
theorem dir_of_kindAt_below {tree : Node} {location : Location} {name : String}
    {rest : Location} {kind : Kind}
    (there : tree.kindAt (location ++ name :: rest) = some kind)
    : tree.kindAt location = some .dir := by
  obtain ⟨node, found, _⟩ := Option.map_eq_some_iff.mp there
  rw [get?_append] at found
  obtain ⟨around, above, below⟩ := Option.bind_eq_some_iff.mp found
  cases around with
  | dir entries => exact kindAt_eq_dir.mpr ⟨_, above⟩
  | file _ => simp [get?_cons, Node.entries] at below
  | link _ => simp [get?_cons, Node.entries] at below

/-- Every name on the way to a node of a well-formed tree is one of an entry. -/
theorem WellFormed.names {tree : Node} (h : tree.WellFormed) {location : Location} {kind : Kind}
    (there : tree.kindAt location = some kind)
    : ∀ name ∈ location, IsEntryName name := by
  intro name member
  obtain ⟨before, after, rfl⟩ := List.append_of_mem member
  obtain ⟨node, found, _⟩ := Option.map_eq_some_iff.mp there
  rw [List.append_cons, get?_append] at found
  obtain ⟨above, entry, _⟩ := Option.bind_eq_some_iff.mp found
  exact (h.name entry).1

/-- Every location on the way to a directory is one. -/
theorem dir_of_dir_below {tree : Node} {location below : Location}
    (there : tree.kindAt (location ++ below) = some .dir)
    : tree.kindAt location = some .dir := by
  cases below with
  | nil => simpa using there
  | cons name rest => exact dir_of_kindAt_below there

/-- Well-formed trees with the same kinds everywhere are equal. Witness: induction on the first
tree; the entries of a directory agree because each of their look-ups does.
-/
theorem WellFormed.ext {left right : Node} (hl : left.WellFormed) (hr : right.WellFormed)
    (same : ∀ location, left.kindAt location = right.kindAt location)
    : left = right := by
  induction left using Node.induction generalizing right with
  | file content =>
      have top := (same []).symm.trans (kindAt_eq_file.mpr (get?_nil _))
      simpa using (kindAt_eq_file.mp top).symm
  | link target =>
      have top := (same []).symm.trans (kindAt_eq_link.mpr (get?_nil _))
      simpa using (kindAt_eq_link.mp top).symm
  | dir entries ih =>
      have top := (same []).symm.trans (kindAt_eq_dir.mpr ⟨entries, get?_nil _⟩)
      obtain ⟨others, equal⟩ := kindAt_eq_dir.mp top
      obtain rfl : right = .dir others := by simpa using equal
      have leftOrderly := (wellFormed_dir.mp hl).1
      have rightOrderly := (wellFormed_dir.mp hr).1
      refine congrArg Node.dir (leftOrderly.ext rightOrderly fun name => ?_)
      have kinds := fun rest => same (name :: rest)
      simp only [kindAt, get?_cons, Node.entries] at kinds
      cases first : Entries.find? entries name with
      | none =>
          have none := kinds []
          rw [first] at none
          cases second : Entries.find? others name with
          | none => rfl
          | some node => simp [second] at none
      | some node =>
          have some := kinds []
          rw [first] at some
          cases second : Entries.find? others name with
          | none => simp [second] at some
          | some other =>
              have member := Entries.mem_of_find? first
              refine congrArg _ (ih _ member (hl.child first) (hr.child second) ?_)
              intro location
              simpa [first, second, kindAt] using kinds location

/-- Well-formed trees hold the same node where they have the same kinds from there down. -/
theorem WellFormed.get?_eq {left right : Node} (hl : left.WellFormed) (hr : right.WellFormed)
    {location : Location}
    (same : ∀ below, left.kindAt (location ++ below) = right.kindAt (location ++ below))
    : left.get? location = right.get? location := by
  have top := same []
  rw [List.append_nil, kindAt, kindAt] at top
  cases first : left.get? location with
  | none =>
      rw [first] at top
      exact (Option.map_eq_none_iff.mp top.symm).symm
  | some node =>
      rw [first] at top
      obtain ⟨other, second, _⟩ := Option.map_eq_some_iff.mp top.symm
      rw [second]
      refine congrArg some ((hl.at first).ext (hr.at second) fun below => ?_)
      rw [← kindAt_append first, ← kindAt_append second]
      exact same below

end Node

end DirMarkers
