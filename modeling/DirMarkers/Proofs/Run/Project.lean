import DirMarkers.Proofs.Tree.Below
import DirMarkers.Proofs.Tree.Likeness
import DirMarkers.Run.Loading
import DirMarkers.Run.Marker

/-!
Trees with a project in them, and what keeps a project one while markers come and go.
-/

namespace DirMarkers

/-- Whether the mode of a configuration is one that a run knows. -/
def Config.HasKnownMode (config : Config) : Prop :=
  ∀ name, config.mode ≠ .unknown name

theorem Config.HasKnownMode.of_normal {config : Config} (normal : config.mode = .normal)
    : config.HasKnownMode := by
  intro name unknown
  cases normal.symm.trans unknown

/-- A run starts at the node of the root directory. -/
theorem Rooted.get?_dirAt {root : PathName} {location : Location} {tree : Node}
    (h : Rooted root location tree)
    : tree.get? (location ++ DirPath.root) = some (Loading.dirAt tree root) := by
  obtain ⟨entries, there⟩ := Node.kindAt_eq_dir.mp h.leads.ends
  rw [← List.append_nil location] at there
  have found := h.stat_under there
  rw [show root.under [] = root from PathName.under_root _, List.append_nil] at found
  rw [Loading.dirAt, found]
  exact there

/-- A tree with a project in it: the path of the root leads to a directory, the marker has the name
of an entry, and no link below the root has that name.
-/
structure Project (config : Config) (location : Location) (tree : Node) : Prop where
  wellFormed : tree.WellFormed
  root : ∃ entries, Tree.stat tree [] config.root.parts = .ok (location, .dir entries)
  marker : IsEntryName config.markerName
  noLink
    : ∀ (dir : DirPath) (target : String),
        tree.get? (location ++ dir ++ [config.markerName]) ≠ some (.link target)

namespace Project

variable {config : Config} {location : Location} {tree : Node}

theorem rooted (h : Project config location tree) : Rooted config.root location tree := by
  obtain ⟨entries, found⟩ := h.root
  exact .of_stat h.wellFormed found

theorem notLink (h : Project config location tree) (dir : DirPath) (target : String)
    : tree.kindAt (location ++ dir ++ [config.markerName]) ≠ some (.link target) :=
  fun there => h.noLink dir target (Node.kindAt_eq_link.mp there)

/-- The entries of a directory are what is found below it. -/
theorem get?_child (h : Project config location tree) {dir : DirPath} {entries : Entries}
    (there : tree.get? (location ++ dir) = some (.dir entries)) {entry : String × Node}
    (member : entry ∈ entries)
    : tree.get? (location ++ dir.child entry.1) = some entry.2 :=
  h.wellFormed.get?_child there member

/-- A project stays one when files of one name come and go, since no path leads through a file. -/
theorem alike (h : Project config location tree) {other : Node} {name : String}
    (wellFormed : other.WellFormed) (alike : Node.AlikeBut name tree other)
    : Project config location other where
  wellFormed := wellFormed
  root := by
    have leads := h.rooted.leads.transport (fun _ => alike.dir) (fun _ _ => alike.link)
    have rooted : Rooted config.root location other := ⟨wellFormed, leads⟩
    obtain ⟨entries, there⟩ := Node.kindAt_eq_dir.mp leads.ends
    rw [← List.append_nil location] at there
    exact ⟨entries, by simpa [PathName.under] using rooted.stat_under there⟩
  marker := h.marker
  noLink := fun dir target there =>
    h.notLink dir target (alike.symm.link (Node.kindAt_eq_link.mpr there))

end Project

mutual

/-- Whether there is a link anywhere in a tree. -/
def Node.holdsLink : Node → Bool
  | .file _ => false
  | .link _ => true
  | .dir entries => anyHoldsLink entries

/-- Whether there is a link anywhere below some entries. -/
def anyHoldsLink : List (String × Node) → Bool
  | [] => false
  | (_, node) :: rest => node.holdsLink || anyHoldsLink rest

end

theorem anyHoldsLink_eq (entries : List (String × Node))
    : anyHoldsLink entries = entries.any (·.2.holdsLink) := by
  induction entries with
  | nil => rfl
  | cons entry rest ih => rw [anyHoldsLink, ih, List.any_cons]

theorem Node.get?_ne_link {tree : Node} (linkless : tree.holdsLink = false) (location : Location)
    (target : String)
    : tree.get? location ≠ some (.link target) := by
  induction location generalizing tree with
  | nil =>
      rw [get?_nil]
      rintro same
      rw [Option.some.inj same] at linkless
      cases linkless
  | cons name rest ih =>
      intro there
      obtain ⟨entries, child, rfl, found, below⟩ := exists_child_of_get?_cons there
      rw [holdsLink, anyHoldsLink_eq, List.any_eq_false] at linkless
      have member := Entries.mem_of_find? found
      exact ih (Bool.eq_false_iff.mpr (linkless _ member)) below

theorem Project.of_linkless {config : Config} {location : Location} {tree : Node}
    (wellFormed : tree.WellFormed)
    (root : ∃ entries, Tree.stat tree [] config.root.parts = .ok (location, .dir entries))
    (marker : IsEntryName config.markerName) (linkless : tree.holdsLink = false)
    : Project config location tree :=
  ⟨wellFormed, root, marker, fun _ => Node.get?_ne_link linkless _⟩

/-- A project with an empty directory, and with one that is not empty but has a marker. -/
def smallTree : Node :=
  .dir [("p", .dir [
    ("bare", .dir []),
    ("full", .dir [(".gitkeep", .file .empty), ("note", .file .empty)])
  ])]

def smallConfig : Config where
  root := ⟨.slash, ["p"]⟩

theorem smallConfig_hasKnownMode : smallConfig.HasKnownMode :=
  .of_normal rfl

theorem smallProject : Project smallConfig ["p"] smallTree :=
  .of_linkless (by decide) ⟨_, rfl⟩ (by decide) rfl

end DirMarkers
