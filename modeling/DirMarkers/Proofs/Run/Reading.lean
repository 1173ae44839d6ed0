import DirMarkers.Proofs.Ignore.Chain
import DirMarkers.Proofs.Spelling
import DirMarkers.Proofs.Tree.Skeleton
import DirMarkers.Run.Loading
import Mathlib.Data.List.Basic
import Mathlib.Data.List.Induction

/-!
What a run reads. The tables hold the rules of each directory that is visited, and of no other, so
the rules in force in a visited directory are those of its ignore files and of the ones above it.
-/

namespace DirMarkers

/-- The table of the rules that one kind of ignore file holds. -/
def Ignore.Tables.tableFor (tables : Tables) : Source → Table
  | .content => tables.content
  | .marker => tables.marker

theorem Ignore.Table.mem_of_lookup {table : Table} {key : String} {rules : List Rule}
    (found : table.lookup key = some rules)
    : (key, rules) ∈ table := by
  obtain ⟨before, after, rfl, _⟩ := List.lookup_eq_some_iff.mp found
  simp

namespace Loading

section

variable (config : Config) (faults : Faults) (tree : Node)

/-- The directories whose ignore files a run reads: the root, and each directory that is listed in
one of them and is neither a link nor excluded.
-/
inductive Visits : DirPath → Prop
  | root : Visits .root
  | child {dir : DirPath} {name : String} {listing entries : Entries} (above : Visits dir)
    (listed : faults.list tree (config.root.under dir) = .ok listing)
    (isDir : Entries.find? listing name = some (.dir entries))
    (kept : config.excludes name = false)
    : Visits (dir.child name)

/-- The text of an ignore file of a directory, if files of its kind count and it can be read. -/
def ignoreText? (source : Ignore.Source) (dir : DirPath) : Option String :=
  if source = .marker ∧ config.respectMarkerIgnore = false then none
  else
    match faults.read tree ((config.root.under dir).child source.fileName) with
    | .ok content => String.fromUTF8? content
    | .error _ => none

/-- The rules of an ignore file of a directory; none if it has no text. -/
def contribution (source : Ignore.Source) (dir : DirPath) : List Rule :=
  match ignoreText? config faults tree source dir with
  | some text => Ignore.parseLines dir.text (Text.lines text)
  | none => []

/-- The rules of the ignore files of a directory and of all above it, outermost first. -/
def chain (dir : DirPath) : List Rule :=
  dir.ancestors.flatMap fun above =>
    contribution config faults tree .content above ++ contribution config faults tree .marker above

/-- A node stands for a directory: it is visited if the node is a directory, and when it can be
listed, it lists the entries of the node.
-/
structure Stands (node : Node) (dir : DirPath) : Prop where
  visited : Visits config faults tree dir ↔ node.kind = .dir
  entries
    : node.kind = .dir
      → ∀ {listing}, faults.list tree (config.root.under dir) = .ok listing → node = .dir listing

end

-----------------------------------------------------------------------------------------
-- Visited directories
-----------------------------------------------------------------------------------------

section

variable {config : Config} {faults : Faults} {tree : Node} {dir : DirPath}

/-- A directory is visited below a visited one if it is listed there and not excluded. -/
theorem visits_child_iff {name : String}
    : Visits config faults tree (dir.child name)
      ↔ Visits config faults tree dir ∧ config.excludes name = false
        ∧ ∃ listing entries, faults.list tree (config.root.under dir) = .ok listing
          ∧ Entries.find? listing name = some (.dir entries) := by
  constructor
  · intro visited
    generalize whole : dir.child name = child at visited
    cases visited with
    | root => cases List.append_ne_nil_of_right_ne_nil dir (by simp) whole
    | child above listed isDir kept =>
        obtain ⟨rfl, rfl⟩ := List.append_singleton_inj.mp whole
        exact ⟨above, kept, _, _, listed, isDir⟩
  · intro h
    obtain ⟨above, kept, listing, entries, listed, isDir⟩ := h
    exact .child above listed isDir kept

/-- Every directory above a visited one is visited, by induction on the names between them. -/
theorem Visits.above {below : DirPath} (h : Visits config faults tree (dir ++ below))
    : Visits config faults tree dir := by
  induction below using List.reverseRecOn with
  | nil => simpa using h
  | append_singleton init last ih =>
      rw [← List.append_assoc] at h
      exact ih (visits_child_iff.mp h).1

variable (wellFormed : tree.WellFormed)

include wellFormed

theorem orderly_of_listed {path : PathName} {listing : Entries}
    (listed : faults.list tree path = .ok listing)
    : listing.Orderly := by
  obtain ⟨_, goal, _, there⟩ := Faults.list_eq_ok_iff.mp listed
  exact wellFormed.orderly there

/-- A listed directory that can be listed itself has the entries that it has there. -/
theorem listed_below {name : String} {listing entries below : Entries}
    (listed : faults.list tree (config.root.under dir) = .ok listing)
    (isDir : Entries.find? listing name = some (.dir entries))
    (again : faults.list tree (config.root.under (dir.child name)) = .ok below)
    : below = entries := by
  obtain ⟨_, goal, leads, there⟩ := Faults.list_eq_ok_iff.mp listed
  have rooted : Rooted (config.root.under dir) goal tree := ⟨wellFormed, leads⟩
  have entry : tree.get? (goal ++ [name]) = some (.dir entries) :=
    (Node.get?_entry there name).trans isDir
  have path : (config.root.under dir).under [name] = config.root.under (dir.child name) := by
    simp [PathName.under, DirPath.child]
  have list := rooted.list_eq entry faults
  rw [path, again] at list
  split at list
  · cases list
  · exact Except.ok.inj list

/-- The names of a visited directory are names of entries, by induction on the visits. -/
theorem Visits.names (h : Visits config faults tree dir) : ∀ name ∈ dir, IsEntryName name := by
  induction h with
  | root => simp [DirPath.root]
  | child above listed isDir kept ih =>
      intro name member
      rcases List.mem_append.mp member with higher | last
      · exact ih name higher
      · obtain rfl := List.mem_singleton.mp last
        exact ((orderly_of_listed wellFormed listed).names _ (Entries.mem_of_find? isDir)).1

/-- A listed entry that is not excluded is visited if it is a directory, and then lists what is in
it.
-/
theorem Stands.child {entries listing : Entries} (h : Stands config faults tree (.dir entries) dir)
    (listed : faults.list tree (config.root.under dir) = .ok listing) {entry : String × Node}
    (member : entry ∈ entries) (kept : config.excludes entry.1 = false)
    : Stands config faults tree entry.2 (dir.child entry.1) := by
  obtain rfl : entries = listing := Node.dir.inj (h.entries rfl listed)
  have found := (orderly_of_listed wellFormed listed).find?_of_mem member
  constructor
  · rw [visits_child_iff]
    constructor
    · intro h
      obtain ⟨_, _, listing, inside, again, isDir⟩ := h
      obtain rfl := Except.ok.inj (listed.symm.trans again)
      rw [Option.some.inj (found.symm.trans isDir)]
      rfl
    · intro isDir
      obtain ⟨inside, node⟩ := Node.eq_dir_of_kind isDir
      exact ⟨h.visited.mpr rfl, kept, _, inside, listed, node ▸ found⟩
  · intro isDir below again
    obtain ⟨inside, node⟩ := Node.eq_dir_of_kind isDir
    rw [node, listed_below wellFormed listed (node ▸ found) again]

/-- A run starts with the node of the root. -/
theorem Stands.root : Stands config faults tree (dirAt tree config.root) .root := by
  constructor
  · refine iff_of_true .root ?_
    rw [dirAt]
    split <;> rfl
  · intro _ listing listed
    rw [PathName.under_root] at listed
    obtain ⟨_, goal, leads, there⟩ := Faults.list_eq_ok_iff.mp listed
    have rooted : Rooted config.root goal tree := ⟨wellFormed, leads⟩
    rw [← List.append_nil goal] at there
    have found := rooted.stat_under there
    rw [show config.root.under [] = config.root from PathName.under_root _] at found
    rw [dirAt, found]
    rfl

end

-----------------------------------------------------------------------------------------
-- Table entries
-----------------------------------------------------------------------------------------

section

variable (config : Config) (faults : Faults) (tree : Node)

/-- What a table has for a directory: the rules of its ignore file, if there are any. -/
def IsEntry (source : Ignore.Source) (entry : String × List Rule) (dir : DirPath) : Prop :=
  entry = (dir.text, contribution config faults tree source dir) ∧ entry.2 ≠ []

end

section

variable {config : Config} {faults : Faults} {tree : Node} {source : Ignore.Source}

/-- An entry comes from the text of an ignore file. -/
theorem isEntry_iff {dir : DirPath} {key : String} {rules : List Rule}
    : IsEntry config faults tree source (key, rules) dir
      ↔ rules ≠ [] ∧ ∃ text, key = dir.text ∧ ignoreText? config faults tree source dir = some text
        ∧ rules = Ignore.parseLines dir.text (Text.lines text) := by
  rw [IsEntry, contribution, Prod.mk.injEq]
  constructor
  · intro h
    obtain ⟨⟨name, same⟩, nonempty⟩ := h
    cases found : ignoreText? config faults tree source dir with
    | none =>
        rw [found] at same
        exact absurd same nonempty
    | some text =>
        rw [found] at same
        exact ⟨nonempty, text, name, rfl, same⟩
  · intro h
    obtain ⟨nonempty, text, name, found, same⟩ := h
    rw [found]
    exact ⟨⟨name, same⟩, nonempty⟩

theorem mem_tableOf {dir : DirPath} {rules : List Rule} {entry : String × List Rule}
    : entry ∈ tableOf dir rules ↔ entry = (dir.text, rules) ∧ entry.2 ≠ [] := by
  rw [tableOf]
  split
  · next none =>
    refine iff_of_false (List.not_mem_nil) ?_
    rintro ⟨rfl, some⟩
    exact some none
  · next some =>
    rw [List.mem_singleton]
    constructor
    · rintro rfl
      exact ⟨rfl, some⟩
    · intro h
      obtain ⟨same, _⟩ := h
      exact same

/-- Reading an ignore file that counts gives the rules of its text. -/
theorem readRules_fst (counts : ¬ (source = .marker ∧ config.respectMarkerIgnore = false))
    (dir : DirPath)
    : (readRules faults tree (config.root.under dir) dir source).1
      = contribution config faults tree source dir := by
  rw [readRules, contribution, ignoreText?, if_neg counts]
  cases faults.read tree ((config.root.under dir).child source.fileName) with
  | error error =>
      dsimp only
      split <;> rfl
  | ok content =>
      cases decoded : String.fromUTF8? content with
      | none => simp only [Ignore.parse, Text.Utf8.decode, decoded]
      | some text =>
          simp only [Ignore.parse, Text.Utf8.decode, decoded]
          cases Ignore.parseLines dir.text (Text.lines text) <;> rfl

/-- Reading the ignore files of a directory gives each table what it has for the directory. -/
theorem tableFor_loadFiles (dir : DirPath)
    : (loadFiles config faults tree (config.root.under dir) dir).tables.tableFor source
      = tableOf dir (contribution config faults tree source dir) := by
  cases source with
  | content =>
      rw [← readRules_fst]
      · rfl
      · simp
  | marker =>
      cases respected : config.respectMarkerIgnore with
      | true =>
          rw [← readRules_fst, loadFiles, respected]
          · rfl
          · simp [respected]
      | false =>
          have none : contribution config faults tree .marker dir = [] := by
            rw [contribution, ignoreText?, if_pos ⟨rfl, respected⟩]
          rw [none, loadFiles, respected]
          rfl

@[simp] theorem tableFor_append (first next : Loaded)
    : (first ++ next).tables.tableFor source
      = first.tables.tableFor source ++ next.tables.tableFor source := by
  cases source <;> rfl

@[simp] theorem tableFor_empty : Ignore.Tables.empty.tableFor source = [] := by
  cases source <;> rfl

/-- What the subdirectories of a directory put into a table comes from one that is not excluded. -/
theorem mem_loadEntries {entries : List (String × Node)} {dir : DirPath}
    {item : String × List Rule}
    : item ∈ (loadEntries config faults tree entries (config.root.under dir) dir).tables.tableFor
        source
      ↔ ∃ entry ∈ entries, config.excludes entry.1 = false
        ∧ item ∈ (loadDir config faults tree entry.2 (config.root.under (dir.child entry.1))
            (dir.child entry.1)).tables.tableFor source := by
  induction entries with
  | nil => simp [loadEntries, Loaded.nothing]
  | cons entry rest ih =>
      rw [loadEntries, tableFor_append, List.mem_append, ih, List.exists_mem_cons_iff,
        PathName.child_under]
      refine or_congr_left ?_
      cases config.excludes entry.1 with
      | true => simp [Loaded.nothing]
      | false => simp

/-- Below a visited directory, a visited directory is that one or is below a visited entry of it.
-/
theorem exists_visits_below_iff {dir : DirPath} {P : DirPath → Prop}
    (visited : Visits config faults tree dir)
    : (∃ below, Visits config faults tree (dir ++ below) ∧ P (dir ++ below))
      ↔ P dir ∨ ∃ name below, Visits config faults tree (dir.child name ++ below)
        ∧ P (dir.child name ++ below) := by
  constructor
  · intro h
    obtain ⟨below, there, holds⟩ := h
    cases below with
    | nil =>
        rw [List.append_nil] at holds
        exact .inl holds
    | cons name rest =>
        rw [List.append_cons] at there holds
        exact .inr ⟨name, rest, there, holds⟩
  · intro found
    rcases found with holds | ⟨name, rest, there, holds⟩
    · refine ⟨[], ?_, ?_⟩
      · rwa [List.append_nil]
      · rwa [List.append_nil]
    · rw [DirPath.child, List.append_assoc] at there holds
      exact ⟨_, there, holds⟩

/-- Reading a directory and all below it puts into a table what it has for each visited directory
there. Witness: induction on the tree; the subdirectories that are visited are among the entries.
-/
theorem mem_loadDir (wellFormed : tree.WellFormed) (node : Node) {dir : DirPath}
    (stands : Stands config faults tree node dir) {item : String × List Rule}
    : item ∈ (loadDir config faults tree node (config.root.under dir) dir).tables.tableFor source
      ↔ ∃ below, Visits config faults tree (dir ++ below)
        ∧ IsEntry config faults tree source item (dir ++ below) := by
  induction node using Node.induction generalizing dir with
  | file _ =>
      refine iff_of_false (by simp [loadDir, Loaded.nothing]) ?_
      intro h
      obtain ⟨below, there, _⟩ := h
      cases stands.visited.mp there.above
  | link _ =>
      refine iff_of_false (by simp [loadDir, Loaded.nothing]) ?_
      intro h
      obtain ⟨below, there, _⟩ := h
      cases stands.visited.mp there.above
  | dir entries ih =>
      rw [exists_visits_below_iff (stands.visited.mpr rfl), loadDir]
      cases listed : faults.list tree (config.root.under dir) with
      | error error =>
          have nothing : ¬ ∃ name below, Visits config faults tree (dir.child name ++ below)
              ∧ IsEntry config faults tree source item (dir.child name ++ below) := by
            intro h
            obtain ⟨name, below, there, _⟩ := h
            obtain ⟨_, _, listing, _, found, _⟩ := visits_child_iff.mp there.above
            cases listed.symm.trans found
          rw [or_iff_left nothing, tableFor_append, tableFor_loadFiles, tableFor_empty,
            List.append_nil, mem_tableOf]
          rfl
      | ok listing =>
          rw [tableFor_append, tableFor_loadFiles, List.mem_append, mem_tableOf, mem_loadEntries]
          refine or_congr_right ?_
          constructor
          · intro h
            obtain ⟨entry, member, kept, inside⟩ := h
            obtain ⟨below, found⟩ :=
              (ih entry member (stands.child wellFormed listed member kept)).mp inside
            exact ⟨entry.1, below, found⟩
          · intro h
            obtain ⟨name, below, there, isEntry⟩ := h
            obtain ⟨_, kept, others, inside, again, isDir⟩ := visits_child_iff.mp there.above
            obtain rfl := Node.dir.inj (stands.entries rfl again)
            have member := Entries.mem_of_find? isDir
            have child := stands.child wellFormed listed member kept
            exact ⟨_, member, kept, (ih _ member child).mpr ⟨below, there, isEntry⟩⟩

end

-----------------------------------------------------------------------------------------
-- The tables
-----------------------------------------------------------------------------------------

section

variable {config : Config} {faults : Faults} {tree : Node} {source : Ignore.Source}
  {dir : DirPath} (wellFormed : tree.WellFormed)

include wellFormed

theorem mem_load {item : String × List Rule}
    : item ∈ (load config faults tree config.root).tables.tableFor source
      ↔ ∃ dir, Visits config faults tree dir ∧ IsEntry config faults tree source item dir := by
  have start : Stands config faults tree (dirAt tree config.root) .root := .root wellFormed
  have read := @mem_loadDir _ _ _ source wellFormed _ _ start item
  rw [PathName.under_root] at read
  rw [load, tableFor_append, tableFor_empty, List.append_nil, read]
  rfl

/-- Visited directories of the same text are the same. -/
theorem Visits.text_inj {other : DirPath} (h : Visits config faults tree dir)
    (also : Visits config faults tree other) (same : dir.text = other.text)
    : dir = other :=
  DirPath.text_inj (h.names wellFormed) (also.names wellFormed) same

/-- What is looked up in a table is the entry of a visited directory, of which there is one at most
with the same text.
-/
theorem lookup_eq_some_iff {key : String} {rules : List Rule}
    : ((load config faults tree config.root).tables.tableFor source).lookup key = some rules
      ↔ ∃ dir, Visits config faults tree dir
        ∧ IsEntry config faults tree source (key, rules) dir := by
  rw [← mem_load wellFormed]
  refine ⟨Ignore.Table.mem_of_lookup, ?_⟩
  intro member
  cases found : ((load config faults tree config.root).tables.tableFor source).lookup key with
  | none => exact absurd (List.lookup_eq_none_iff.mp found _ member) (by simp)
  | some others =>
      obtain ⟨dir, visited, isEntry⟩ := (mem_load wellFormed).mp member
      obtain ⟨other, also, alsoEntry⟩ :=
        (mem_load wellFormed).mp (Ignore.Table.mem_of_lookup found)
      obtain ⟨text, rules⟩ := Prod.mk.inj isEntry.1
      obtain ⟨alsoText, alsoRules⟩ := Prod.mk.inj alsoEntry.1
      obtain rfl := visited.text_inj wellFormed also (text.symm.trans alsoText)
      rw [rules, alsoRules]

/-- What a table has for a visited directory are the rules of its ignore file. -/
theorem rulesAt_eq (visited : Visits config faults tree dir)
    : ((load config faults tree config.root).tables.tableFor source).rulesAt dir.text
      = contribution config faults tree source dir := by
  rw [Ignore.Table.rulesAt]
  cases found : ((load config faults tree config.root).tables.tableFor source).lookup dir.text with
  | some rules =>
      obtain ⟨other, also, isEntry⟩ := (lookup_eq_some_iff wellFormed).mp found
      obtain ⟨text, same⟩ := Prod.mk.inj isEntry.1
      obtain rfl := visited.text_inj wellFormed also text
      exact same
  | none =>
      by_contra some
      have entry : IsEntry config faults tree source
          (dir.text, contribution config faults tree source dir) dir :=
        ⟨rfl, fun none => some none.symm⟩
      cases found.symm.trans ((lookup_eq_some_iff wellFormed).mpr ⟨dir, visited, entry⟩)

/-- The rules in force in a visited directory are its chain of rules. -/
theorem inForce_eq_chain (visited : Visits config faults tree dir)
    : (load config faults tree config.root).tables.inForce dir = chain config faults tree dir := by
  rw [Ignore.Tables.inForce, chain]
  refine List.flatMap_congr fun above member => ?_
  obtain ⟨below, rfl⟩ := DirPath.mem_ancestors.mp member
  have rules (source : Ignore.Source)
      : ((load config faults tree config.root).tables.tableFor source).rulesAt above.text
        = contribution config faults tree source above :=
    rulesAt_eq wellFormed visited.above
  exact congrArg₂ (· ++ ·) (rules .content) (rules .marker)

end

end Loading

end DirMarkers
