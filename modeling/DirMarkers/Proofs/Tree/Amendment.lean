import DirMarkers.Proofs.Tree.WellFormed

/-!
Changes to the entries of one directory. Putting a file into a directory and erasing one are both
of this form; either leaves the tree well-formed and shows at the location of the file alone.
-/

namespace DirMarkers.Node

/-- Changes the entries of the directory at a location. -/
def amend (change : Entries → Entries) : Node → Location → Node
  | .dir entries, [] => .dir (change entries)
  | .dir entries, name :: rest =>
    match Entries.find? entries name with
    | some child => .dir (Entries.put name (amend change child rest) entries)
    | none => .dir entries
  | other, _ => other

theorem amend_cons {change : Entries → Entries} {entries : Entries} {name : String}
    {child : Node} (found : Entries.find? entries name = some child) (rest : Location)
    : amend change (.dir entries) (name :: rest)
      = .dir (Entries.put name (amend change child rest) entries) := by
  rw [amend, found]

/-- Only a directory leads to another node. -/
theorem exists_child_of_get?_cons {tree node : Node} {name : String} {rest : Location}
    (there : tree.get? (name :: rest) = some node)
    : ∃ entries child, tree = .dir entries ∧ Entries.find? entries name = some child
      ∧ child.get? rest = some node := by
  rw [get?_cons] at there
  obtain ⟨child, found, below⟩ := Option.bind_eq_some_iff.mp there
  cases tree with
  | dir entries => exact ⟨entries, child, rfl, found, below⟩
  | file _ => simp [Node.entries] at found
  | link _ => simp [Node.entries] at found

/-- Putting a node into a directory amends its entries, by induction on the way there. -/
theorem put_eq_amend {tree : Node} {location : Location} {entries : Entries}
    (there : tree.get? location = some (.dir entries)) (name : String) (new : Node)
    : Node.put new tree (location ++ [name]) = tree.amend (Entries.put name new) location := by
  induction location generalizing tree with
  | nil =>
      obtain rfl : tree = .dir entries := by simpa using there
      simp [Node.put, amend]
  | cons first rest ih =>
      obtain ⟨around, child, rfl, found, below⟩ := exists_child_of_get?_cons there
      rw [amend_cons found, List.cons_append, Node.put, found, Option.getD_some, ih below]

/-- Erasing an entry of a directory amends its entries, by induction on the way there. -/
theorem erase_eq_amend {tree : Node} {location : Location} {entries : Entries}
    (there : tree.get? location = some (.dir entries)) (name : String)
    : tree.erase (location ++ [name]) = tree.amend (Entries.erase · name) location := by
  induction location generalizing tree with
  | nil =>
      obtain rfl : tree = .dir entries := by simpa using there
      simp [Node.erase, amend]
  | cons first rest ih =>
      obtain ⟨around, child, rfl, found, below⟩ := exists_child_of_get?_cons there
      rw [amend_cons found, List.cons_append, Node.erase, found]
      · simp only [ih below]
      · simp

/-- An amended tree is well-formed if the amended directory is. -/
theorem WellFormed.amend {tree : Node} (h : tree.WellFormed) {change : Entries → Entries}
    {location : Location} {entries : Entries}
    (there : tree.get? location = some (.dir entries))
    (changed : (Node.dir (change entries)).WellFormed)
    : (tree.amend change location).WellFormed := by
  induction location generalizing tree with
  | nil =>
      obtain rfl : tree = .dir entries := by simpa using there
      simpa [Node.amend] using changed
  | cons first rest ih =>
      obtain ⟨around, child, rfl, found, below⟩ := exists_child_of_get?_cons there
      have orderly := (wellFormed_dir.mp h).1
      have named := orderly.names _ (Entries.mem_of_find? found)
      rw [amend_cons found]
      refine wellFormed_dir.mpr ⟨orderly.put _ named.1 named.2, fun entry member => ?_⟩
      rcases Entries.mem_put member with rfl | old
      · exact ih (h.child found) below
      · exact (wellFormed_dir.mp h).2 entry old

theorem kindAt_cons (node : Node) (name : String) (rest : Location)
    : node.kindAt (name :: rest) = (Entries.find? node.entries name).bind (·.kindAt rest) := by
  rw [kindAt, get?_cons]
  cases Entries.find? node.entries name <;> rfl

/-- Below the amended directory stands what its new entries hold. -/
theorem kindAt_amend_below {tree : Node} {change : Entries → Entries} {location : Location}
    {entries : Entries} (there : tree.get? location = some (.dir entries)) (below : Location)
    : (tree.amend change location).kindAt (location ++ below)
      = (Node.dir (change entries)).kindAt below := by
  induction location generalizing tree with
  | nil =>
      obtain rfl : tree = .dir entries := by simpa using there
      simp [amend]
  | cons first rest ih =>
      obtain ⟨around, child, rfl, found, under⟩ := exists_child_of_get?_cons there
      rw [amend_cons found, List.cons_append, kindAt_cons, Node.entries, Entries.find?_put,
        if_pos rfl]
      exact ih under

/-- Nothing changes at a location that is not below the amended directory. -/
theorem kindAt_amend_outside {tree : Node} {change : Entries → Entries}
    {location : Location} {entries : Entries}
    (there : tree.get? location = some (.dir entries)) {other : Location}
    (apart : ¬ location <+: other)
    : (tree.amend change location).kindAt other = tree.kindAt other := by
  induction location generalizing tree other with
  | nil => exact absurd (List.nil_prefix) apart
  | cons first rest ih =>
      obtain ⟨around, child, rfl, found, under⟩ := exists_child_of_get?_cons there
      rw [amend_cons found]
      cases other with
      | nil => rfl
      | cons name below =>
          rw [kindAt_cons, kindAt_cons, Node.entries, Entries.find?_put, Node.entries]
          by_cases same : name = first
          · subst same
            have apart : ¬ rest <+: below := fun h => apart (List.cons_prefix_cons.mpr ⟨rfl, h⟩)
            rw [if_pos rfl, found]
            exact ih under apart
          · rw [if_neg same]

/-- An entry of a directory is no directory itself, if there is one at all. -/
def NoDirAt (entries : Entries) (name : String) : Prop :=
  ∀ below, Entries.find? entries name ≠ some (.dir below)

/-- What is no directory has nothing below it. -/
theorem NoDirAt.kindAt {entries : Entries} {name : String} (free : NoDirAt entries name)
    (first : String) (rest : Location)
    : (Node.dir entries).kindAt (name :: first :: rest) = none := by
  rw [kindAt_cons, Node.entries]
  cases found : Entries.find? entries name with
  | none => rfl
  | some node =>
      rw [Option.bind_some, kindAt_cons]
      cases node with
      | dir below => exact absurd found (free below)
      | file _ => rfl
      | link _ => rfl

theorem noDirAt_of_kindAt {tree : Node} {location : Location} {entries : Entries}
    (there : tree.get? location = some (.dir entries)) {name : String}
    (free : tree.kindAt (location ++ [name]) ≠ some .dir)
    : NoDirAt entries name := by
  intro below found
  exact free (kindAt_eq_dir.mpr ⟨below, (get?_entry there name).trans found⟩)

/-- A change to the entry of one name shows there alone, if there is no directory before and
after it.
-/
theorem kindAt_amend {tree : Node} (change : Entries → Entries) {location : Location}
    {entries : Entries} (there : tree.get? location = some (.dir entries)) {name : String}
    (kept : ∀ other, other ≠ name
      → Entries.find? (change entries) other = Entries.find? entries other)
    (free : NoDirAt entries name) (freed : NoDirAt (change entries) name) (other : Location)
    : (tree.amend change location).kindAt other
      = if other = location ++ [name] then (Entries.find? (change entries) name).map kind
        else tree.kindAt other := by
  by_cases below : location <+: other
  · obtain ⟨rest, rfl⟩ := below
    rw [kindAt_amend_below there, kindAt_append there]
    cases rest with
    | nil => simp [Node.kindAt, kind]
    | cons first rest =>
        by_cases same : first = name
        · subst same
          cases rest with
          | nil => simp [Node.kindAt, get?_cons, Node.entries]
          | cons second rest => rw [freed.kindAt, free.kindAt, if_neg (by simp)]
        · rw [if_neg (by simp [same]), kindAt_cons, kindAt_cons, Node.entries, Node.entries,
            kept first same]
  · rw [kindAt_amend_outside there below, if_neg]
    rintro rfl
    exact below (List.prefix_append _ _)

/-- A file that is put into a directory shows at its own location and nowhere else. -/
theorem kindAt_put_file {tree : Node} {location : Location} {entries : Entries}
    (there : tree.get? location = some (.dir entries)) {name : String}
    (free : tree.kindAt (location ++ [name]) ≠ some .dir) (content : ByteArray) (other : Location)
    : (Node.put (.file content) tree (location ++ [name])).kindAt other
      = if other = location ++ [name] then some (.file content) else tree.kindAt other := by
  have self : Entries.find? (Entries.put name (.file content) entries) name
      = some (.file content) := by
    rw [Entries.find?_put, if_pos rfl]
  have kept (other : String) (different : other ≠ name)
      : Entries.find? (Entries.put name (.file content) entries) other
        = Entries.find? entries other := by
    rw [Entries.find?_put, if_neg different]
  have freed : NoDirAt (Entries.put name (.file content) entries) name := by
    intro below found
    cases self.symm.trans found
  rw [put_eq_amend there,
    kindAt_amend (Entries.put name _) there kept (noDirAt_of_kindAt there free) freed, self]
  rfl

/-- A file or a link that is erased is missing at its own location and nowhere else. -/
theorem kindAt_erase {tree : Node} {location : Location} {entries : Entries}
    (there : tree.get? location = some (.dir entries)) {name : String}
    (free : tree.kindAt (location ++ [name]) ≠ some .dir) (other : Location)
    : (tree.erase (location ++ [name])).kindAt other
      = if other = location ++ [name] then none else tree.kindAt other := by
  have self : Entries.find? (Entries.erase entries name) name = none := by
    rw [Entries.find?_erase, if_pos rfl]
  have kept (other : String) (different : other ≠ name)
      : Entries.find? (Entries.erase entries name) other = Entries.find? entries other := by
    rw [Entries.find?_erase, if_neg different]
  have freed : NoDirAt (Entries.erase entries name) name := by
    intro below found
    cases self.symm.trans found
  rw [erase_eq_amend there,
    kindAt_amend (Entries.erase · name) there kept (noDirAt_of_kindAt there free) freed, self]
  rfl

theorem WellFormed.put_file {tree : Node} (h : tree.WellFormed) {location : Location}
    {entries : Entries} (there : tree.get? location = some (.dir entries)) {name : String}
    (named : IsEntryName name) (short : name.utf8ByteSize ≤ Tree.nameLimit)
    (content : ByteArray)
    : (Node.put (.file content) tree (location ++ [name])).WellFormed := by
  rw [put_eq_amend there]
  refine h.amend there (wellFormed_dir.mpr ⟨(h.orderly there).put _ named short, ?_⟩)
  intro entry member
  rcases Entries.mem_put member with rfl | old
  · exact trivial
  · exact (wellFormed_dir.mp (h.at there)).2 entry old

theorem WellFormed.erase_entry {tree : Node} (h : tree.WellFormed) {location : Location}
    {entries : Entries} (there : tree.get? location = some (.dir entries)) (name : String)
    : (tree.erase (location ++ [name])).WellFormed := by
  have kept : (Entries.erase entries name).Sublist entries := List.filter_sublist
  rw [erase_eq_amend there]
  refine h.amend there (wellFormed_dir.mpr ⟨(h.orderly there).sublist kept, ?_⟩)
  intro entry member
  exact (wellFormed_dir.mp (h.at there)).2 entry (kept.subset member)

end DirMarkers.Node
