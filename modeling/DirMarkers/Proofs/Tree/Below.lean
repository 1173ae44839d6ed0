import DirMarkers.Proofs.Tree.Amendment
import DirMarkers.Proofs.Tree.Resolution
import DirMarkers.DirPath
import DirMarkers.Tree.Fault

/-!
Calls on paths below a directory. The path of the directory may lead through links; below it, a
call depends on the fault of its path, the length of its text, and the entry that it names.
-/

namespace DirMarkers

namespace PathName

/-- The path of a directory that is named relative to another one. -/
def under (root : PathName) (dir : DirPath) : PathName :=
  { root with parts := root.parts ++ dir }

@[simp] theorem under_root (root : PathName) : root.under .root = root := by
  simp [under, DirPath.root]

@[simp] theorem child_under (root : PathName) (dir : DirPath) (name : String)
    : (root.under dir).child name = root.under (dir.child name) := by
  simp [under, child, DirPath.child]

/-- The last component of a path below its root, by the last of an append. -/
theorem name_under (root : PathName) {dir : DirPath} (below : dir ≠ .root)
    : (root.under dir).name = dir.getLast?.getD "" := by
  rw [name, under, List.getLast?_append, List.getLast?_eq_some_getLast below]
  rfl

/-- A name without a slash is its only piece. -/
theorem split_of_noSlash {name : String} (noSlash : '/' ∉ name.toList)
    : Text.split '/' name = [name] := by
  rw [Text.split, List.splitOn_eq_singleton noSlash]
  simp

/-- Going on with a name that has no slash names that entry, unless it names no entry at all. -/
theorem join_name (path : PathName) {name : String} (noSlash : '/' ∉ name.toList)
    (notEmpty : name ≠ "") (notDot : name ≠ ".")
    : path.join name = path.child name := by
  have relative : anchorOf name.toList = .relative := by
    cases chars : name.toList with
    | nil => rfl
    | cons c rest =>
        rw [chars] at noSlash
        have : c ≠ '/' := fun same => noSlash (same ▸ List.mem_cons_self)
        unfold anchorOf
        split <;> simp_all
  have parts : partsOf name = [name] := by
    simp [partsOf, split_of_noSlash noSlash, notEmpty, notDot]
  rw [join, relative, parts]
  rfl

theorem join_entry (path : PathName) {name : String} (named : IsEntryName name)
    : path.join name = path.child name :=
  path.join_name named.noSlash named.ne_empty named.ne_dot

end PathName

namespace Faults

/-- Why a call fails before it looks at the tree: a fault, or else a text that is too long. -/
def refusal? (faults : Faults) (call : Call) (path : PathName) : Option SystemError :=
  match faults call path with
  | some errno => some ⟨errno, path.text⟩
  | Option.none =>
    if Tree.isTooLong path.text then some ⟨.nameTooLong, path.text⟩ else Option.none

theorem attempt_eq {α : Type} (faults : Faults) (call : Call) (path : PathName)
    (act : List String → Except Errno α)
    : faults.attempt call path act
      = match faults.refusal? call path with
        | some error => .error error
        | Option.none => (act path.parts).mapError (⟨·, path.text⟩) := by
  rw [attempt, refusal?]
  cases faults call path with
  | some errno => rfl
  | none =>
      by_cases long : Tree.isTooLong path.text = true
      · simp [Tree.call, long]
      · simp only [Tree.call, if_neg long]
        cases act path.parts <;> rfl

end Faults

-----------------------------------------------------------------------------------------
-- Trees with a root directory
-----------------------------------------------------------------------------------------

/-- The entries of a directory of a well-formed tree are what is found below it. -/
theorem Node.WellFormed.get?_child {tree : Node} (h : tree.WellFormed) {location : Location}
    {dir : DirPath} {entries : Entries} (there : tree.get? (location ++ dir) = some (.dir entries))
    {entry : String × Node} (member : entry ∈ entries)
    : tree.get? (location ++ dir.child entry.1) = some entry.2 := by
  rw [DirPath.child, ← List.append_assoc, Node.get?_entry there]
  exact (h.orderly there).find?_of_mem member

/-- A well-formed tree in which a path leads to a directory. -/
structure Rooted (root : PathName) (location : Location) (tree : Node) : Prop where
  wellFormed : tree.WellFormed
  leads : Tree.Leads tree Tree.linkLimit [] root.parts location

namespace Rooted

variable {root : PathName} {location : Location} {tree : Node} {dir : DirPath}
  {entries : Entries}

/-- The status of a path says whether it leads to a directory. -/
theorem of_stat (wellFormed : tree.WellFormed)
    (found : Tree.stat tree [] root.parts = .ok (location, .dir entries))
    : Rooted root location tree := by
  rw [Tree.stat, Tree.resolve] at found
  cases arrival : Tree.resolveWithin tree .follow Tree.linkLimit [] root.parts with
  | found goal node =>
      rw [arrival] at found
      cases found
      exact ⟨wellFormed, .of_found arrival⟩
  | missing _ _ _ => rw [arrival] at found; cases found
  | blocked _ => rw [arrival] at found; cases found
  | refused _ => rw [arrival] at found; cases found

/-- The path of a directory below the root leads to it. -/
theorem stat_under (h : Rooted root location tree)
    (there : tree.get? (location ++ dir) = some (.dir entries))
    : Tree.stat tree [] (root.under dir).parts = .ok (location ++ dir, .dir entries) := by
  have kind : tree.kindAt (location ++ dir) = some .dir := Node.kindAt_eq_dir.mpr ⟨_, there⟩
  obtain ⟨left, whole⟩ := h.leads.resolve_append .follow (.inl rfl)
  have down : Tree.resolveWithin tree .follow left location (dir ++ [])
      = Tree.resolveWithin tree .follow left (location ++ dir) [] :=
    Tree.resolveWithin_descend h.wellFormed .follow left kind
  rw [List.append_nil] at down
  rw [Tree.stat, Tree.resolve, PathName.under, whole, down, Tree.resolveWithin_nil there]
  rfl

section

variable (h : Rooted root location tree)
  (there : tree.get? (location ++ dir) = some (.dir entries)) {name : String}
  (named : IsEntryName name)
  (notLink : ∀ target, tree.kindAt (location ++ dir ++ [name]) ≠ some (.link target))
  (faults : Faults)

include h there named notLink

/-- The path of an entry of a directory below the root resolves to that entry, unless it is a
link.
-/
theorem resolve_entry (last : LastLink)
    : Tree.resolve tree last [] ((root.under dir).child name).parts
      = if Tree.nameLimit < name.utf8ByteSize then .refused .nameTooLong
        else match tree.get? (location ++ dir ++ [name]) with
          | none => .missing (location ++ dir) name []
          | some node => .found (location ++ dir ++ [name]) node := by
  have leads := (of_stat h.wellFormed (h.stat_under there)).leads
  exact leads.resolve_entry there named last (.inr notLink)

theorem read_eq
    : faults.read tree ((root.under dir).child name)
      = match faults.refusal? .read ((root.under dir).child name) with
        | some error => .error error
        | none =>
          if Tree.nameLimit < name.utf8ByteSize then
            .error ⟨.nameTooLong, ((root.under dir).child name).text⟩
          else match tree.kindAt (location ++ dir ++ [name]) with
            | none => .error ⟨.notFound, ((root.under dir).child name).text⟩
            | some (.file content) => .ok content
            | some _ => .error ⟨.isDirectory, ((root.under dir).child name).text⟩ := by
  rw [Faults.read, Faults.attempt_eq, Tree.read, Tree.stat,
    h.resolve_entry there named notLink, Node.kindAt]
  by_cases long : Tree.nameLimit < name.utf8ByteSize
  · simp only [if_pos long, Arrival.node]
    rfl
  · simp only [if_neg long]
    cases tree.get? (location ++ dir ++ [name]) with
    | none => rfl
    | some node => cases node <;> rfl

theorem write_eq (content : ByteArray)
    : faults.write tree ((root.under dir).child name) content
      = match faults.refusal? .write ((root.under dir).child name) with
        | some error => .error error
        | none =>
          if Tree.nameLimit < name.utf8ByteSize then
            .error ⟨.nameTooLong, ((root.under dir).child name).text⟩
          else match tree.kindAt (location ++ dir ++ [name]) with
            | some .dir => .error ⟨.isDirectory, ((root.under dir).child name).text⟩
            | _ => .ok (Node.put (.file content) tree (location ++ dir ++ [name])) := by
  rw [Faults.write, Faults.attempt_eq, Tree.write, h.resolve_entry there named notLink]
  by_cases long : Tree.nameLimit < name.utf8ByteSize
  · simp only [if_pos long, Arrival.place]
    rfl
  · simp only [if_neg long, Node.kindAt]
    cases found : tree.get? (location ++ dir ++ [name]) with
    | none => rfl
    | some node =>
        cases node with
        | link target => exact absurd (Node.kindAt_eq_link.mpr found) (notLink target)
        | file _ => rfl
        | dir _ => rfl

/-- Where a file was written, there was room for it. -/
theorem room_of_write {content : ByteArray} {changed : Node}
    (written : faults.write tree ((root.under dir).child name) content = .ok changed)
    : name.utf8ByteSize ≤ Tree.nameLimit
      ∧ tree.kindAt (location ++ dir ++ [name]) ≠ some .dir := by
  rw [h.write_eq there named notLink] at written
  split at written
  · cases written
  · split at written
    · cases written
    · next short =>
      refine ⟨Nat.le_of_not_lt short, fun isDir => ?_⟩
      rw [isDir] at written
      cases written

theorem remove_eq
    : faults.remove tree ((root.under dir).child name)
      = match faults.refusal? .remove ((root.under dir).child name) with
        | some error => .error error
        | none =>
          if Tree.nameLimit < name.utf8ByteSize then
            .error ⟨.nameTooLong, ((root.under dir).child name).text⟩
          else match tree.kindAt (location ++ dir ++ [name]) with
            | none => .error ⟨.notFound, ((root.under dir).child name).text⟩
            | some .dir => .error ⟨.isDirectory, ((root.under dir).child name).text⟩
            | some _ => .ok (tree.erase (location ++ dir ++ [name])) := by
  rw [Faults.remove, Faults.attempt_eq, Tree.remove, Tree.linkStat,
    h.resolve_entry there named notLink, Node.kindAt]
  by_cases long : Tree.nameLimit < name.utf8ByteSize
  · simp only [if_pos long, Arrival.node]
    rfl
  · simp only [if_neg long]
    cases tree.get? (location ++ dir ++ [name]) with
    | none => rfl
    | some node => cases node <;> rfl

end

/-- The entries that a directory below the root lists are its own. -/
theorem list_eq (h : Rooted root location tree)
    (there : tree.get? (location ++ dir) = some (.dir entries)) (faults : Faults)
    : faults.list tree (root.under dir)
      = match faults.refusal? .list (root.under dir) with
        | some error => .error error
        | none => .ok entries := by
  rw [Faults.list, Faults.attempt_eq, Tree.list, h.stat_under there]
  rfl

end Rooted

end DirMarkers
