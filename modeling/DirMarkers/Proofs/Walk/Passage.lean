import DirMarkers.Proofs.Settings.Merging
import DirMarkers.Proofs.Walk.Settlement
import DirMarkers.Run.Walk

/-!
How a walk passes through a tree. Nothing that calls do keeps a walk from ending with an answer, so
it comes to every directory whose turn it is, and what happens there is part of its journal.
-/

namespace DirMarkers

/-- A configuration that gives no reason to end a run early. -/
structure Config.IsSafe (config : Config) : Prop where
  known : config.HasKnownMode
  marker : IsEntryName config.markerName

/-- A configuration that settings make is safe if the name of its marker does not end a path. -/
theorem Settings.Yields.isSafe {root : PathName} {value : Setting → Except Yaml.Obstacle Yaml.Value}
    {config : Config} (h : Settings.Yields root value config)
    (noNul : holdsNul config.markerName = false)
    : config.IsSafe :=
  ⟨h.hasKnownMode, Settings.isEntryName_of_plain h.plain noNul⟩

/-- No component of a path ends it early. -/
def PathName.IsNulFree (path : PathName) : Prop :=
  ∀ part ∈ path.parts, '\x00' ∉ part.toList

theorem PathName.IsNulFree.child {path : PathName} (h : path.IsNulFree) {name : String}
    (named : IsEntryName name)
    : (path.child name).IsNulFree := by
  intro part member
  rcases List.mem_append.mp member with above | last
  · exact h part above
  · exact List.mem_singleton.mp last ▸ named.noNul

namespace Step

variable {α β : Type}

/-- A step ends with an answer. -/
def Completes (step : Step α) : Prop :=
  ∃ answer, step.answer = .ok answer

theorem Completes.map {step : Step α} (h : step.Completes) (f : α → β)
    : (step.map f).Completes := by
  obtain ⟨answer, ended⟩ := h
  exact ⟨f answer, by rw [Step.map, ended]; rfl⟩

theorem Completes.after {step : Step α} (h : step.Completes) (before : Journal)
    : (step.after before).Completes :=
  h

theorem bind_of_answer {first : Step α} {answer : α} (ended : first.answer = .ok answer)
    (next : α → Node → Step β)
    : first.bind next = (next answer first.tree).after first.journal := by
  rw [bind, ended]
  rfl

theorem Completes.bind {first : Step α} (h : first.Completes) {next : α → Node → Step β}
    (then_ : ∀ answer, (next answer first.tree).Completes)
    : (first.bind next).Completes := by
  obtain ⟨answer, ended⟩ := h
  rw [bind_of_answer ended]
  exact (then_ answer).after _

/-- What happens in the first of two steps happens in both. -/
theorem infix_bind_first (first : Step α) (next : α → Node → Step β)
    : first.journal <:+: (first.bind next).journal := by
  rw [bind]
  cases first.answer with
  | error crash => exact List.infix_rfl
  | ok answer => exact (List.prefix_append _ _).isInfix

/-- What happens in the second of two steps happens in both, if the first one ends. -/
theorem infix_bind_next {first : Step α} {answer : α} (ended : first.answer = .ok answer)
    (next : α → Node → Step β)
    : (next answer first.tree).journal <:+: (first.bind next).journal := by
  rw [bind_of_answer ended]
  exact (List.suffix_append _ _).isInfix

end Step

-----------------------------------------------------------------------------------------
-- Walks end
-----------------------------------------------------------------------------------------

section

variable {config : Config} (safe : config.IsSafe) (faults : Faults)

include safe

theorem Config.IsSafe.crash?_marker {path : PathName} (nulFree : path.IsNulFree) (call : Call)
    : faults.crash? call (path.child config.markerName) = none :=
  faults.crash?_eq_none call (nulFree.child safe.marker)

/-- Settling a marker ends whether or not it succeeds, by cases on what is to be done. -/
theorem Marker.settle_completes {path : PathName} (nulFree : path.IsNulFree) (dir : DirPath)
    (isEmpty hasMarker : Bool) (tree : Node)
    : (Marker.settle config faults path dir isEmpty hasMarker tree).Completes := by
  obtain ⟨duty, due⟩ := Marker.exists_duty safe.known isEmpty hasMarker
  simp only [Marker.settle, due]
  cases duty with
  | leave => exact ⟨(), rfl⟩
  | reportMissing => exact ⟨(), rfl⟩
  | reportSpare => exact ⟨(), rfl⟩
  | create =>
      simp only [Marker.perform, Marker.create, PathName.join_entry path safe.marker,
        safe.crash?_marker faults nulFree]
      split
      · exact ⟨(), rfl⟩
      · cases faults.write tree (path.child config.markerName) config.markerContent.toUTF8 with
        | ok changed => exact ⟨(), rfl⟩
        | error error => exact ⟨(), rfl⟩
  | remove =>
      simp only [Marker.perform, Marker.remove, PathName.join_entry path safe.marker,
        safe.crash?_marker faults nulFree]
      split
      · exact ⟨(), rfl⟩
      · cases faults.remove tree (path.child config.markerName) with
        | ok changed => exact ⟨(), rfl⟩
        | error error => exact ⟨(), rfl⟩

end

namespace Walk

section

variable {config : Config} (safe : config.IsSafe) (faults : Faults) (tables : Ignore.Tables)

theorem visitAll_completes {entries : List (String × Node)} {path : PathName}
    (each : ∀ entry ∈ entries, ∀ dir tree,
      (visit config faults tables entry.2 (path.child entry.1) dir tree).Completes)
    (dir : DirPath) (tree : Node)
    : (visitAll config faults tables entries path dir tree).Completes := by
  induction entries generalizing tree with
  | nil => exact ⟨true, rfl⟩
  | cons entry rest ih =>
      rw [visitAll]
      refine (each entry List.mem_cons_self ..).bind fun _ => .map ?_ _
      exact ih (fun other member => each other (List.mem_cons_of_mem _ member)) _

include safe

/-- A visit to a node ends, whatever the tree is by then, by induction on the node. -/
theorem visit_completes {node : Node} (wellFormed : node.WellFormed) {path : PathName}
    (nulFree : path.IsNulFree) (dir : DirPath) (tree : Node)
    : (visit config faults tables node path dir tree).Completes := by
  induction node using Node.induction generalizing path dir tree with
  | file _ => exact ⟨true, rfl⟩
  | link _ => exact ⟨true, rfl⟩
  | dir entries ih =>
      obtain ⟨orderly, children⟩ := Node.wellFormed_dir.mp wellFormed
      cases skips : skip? config (tables.inForce dir) path dir with
      | mk skipped before =>
          simp only [visit, skips, faults.crash?_eq_none .list nulFree]
          cases skipped with
          | true => exact ⟨true, rfl⟩
          | false =>
              cases faults.list tree path with
              | error error => exact ⟨true, rfl⟩
              | ok listing =>
                  refine .after (.bind (visitAll_completes faults tables ?_ dir tree) ?_) _
                  · exact fun entry member => ih entry member (children entry member)
                      (nulFree.child (orderly.names entry member).1)
                  · exact fun _ => ((Marker.settle_completes safe faults nulFree ..).map _).after _

end

-----------------------------------------------------------------------------------------
-- Where a walk comes to
-----------------------------------------------------------------------------------------

section

variable (config : Config) (faults : Faults) (tables : Ignore.Tables) (start : Node)

/-- A walk that starts with one tree comes to a directory with some entries when the tree has
become another one: it starts in the root, and from a directory that it does not skip and can list
it comes to each subdirectory once it is done with those before it.
-/
inductive Comes : DirPath → Entries → Node → Prop
  | root {entries : Entries} (isDir : Loading.dirAt start config.root = .dir entries)
    : Comes .root entries start
  | child {dir : DirPath} {entries listing before after below : Entries} {name : String}
    {now : Node} (above : Comes dir entries now)
    (kept : (skip? config (tables.inForce dir) (config.root.under dir) dir).1 = false)
    (listed : faults.list now (config.root.under dir) = .ok listing)
    (turn : entries = before ++ (name, .dir below) :: after)
    : Comes (dir.child name) below
        (visitAll config faults tables before (config.root.under dir) dir now).tree

end

section

variable {config : Config} (safe : config.IsSafe) {faults : Faults} {tables : Ignore.Tables}

/-- What happens in the visit to one of the entries happens in the visit to all of them. -/
theorem infix_visitAll {before after : List (String × Node)} {name : String} {node : Node}
    {path : PathName}
    (each : ∀ entry ∈ before, ∀ dir tree,
      (visit config faults tables entry.2 (path.child entry.1) dir tree).Completes)
    (dir : DirPath) (tree : Node)
    : (visit config faults tables node (path.child name) (dir.child name)
        (visitAll config faults tables before path dir tree).tree).journal
      <:+: (visitAll config faults tables (before ++ (name, node) :: after) path dir
        tree).journal := by
  induction before generalizing tree with
  | nil =>
      rw [List.nil_append, visitAll]
      exact Step.infix_bind_first _ _
  | cons entry rest ih =>
      obtain ⟨answer, ended⟩ := each entry List.mem_cons_self (dir.child entry.1) tree
      have later := ih (fun other member => each other (List.mem_cons_of_mem _ member))
        (visit config faults tables entry.2 (path.child entry.1) (dir.child entry.1) tree).tree
      rw [List.cons_append, visitAll, visitAll, Step.bind_of_answer ended,
        Step.bind_of_answer ended]
      exact later.trans (List.suffix_append _ _).isInfix

/-- A visit to a directory that is not skipped and can be listed is one to its subdirectories, and
then the judgement of the directory itself.
-/
theorem visit_of_listed {entries listing : Entries} {path : PathName} {dir : DirPath} {tree : Node}
    (nulFree : path.IsNulFree)
    (kept : (skip? config (tables.inForce dir) path dir).1 = false)
    (listed : faults.list tree path = .ok listing)
    : visit config faults tables (.dir entries) path dir tree
      = ((visitAll config faults tables entries path dir tree).bind
          (conclude config faults (tables.inForce dir) path dir (fileNames listing))).after
        (.entered dir :: (skip? config (tables.inForce dir) path dir).2) := by
  rw [visit]
  simp only [kept, faults.crash?_eq_none .list nulFree, listed]
  rfl

include safe

/-- Where a walk comes to, it makes its visit. Witness: induction on the way there, along which all
paths are free of the character that ends one.
-/
theorem Comes.infix {start now : Node} {location : Location} {dir : DirPath} {entries : Entries}
    (rooted : Rooted config.root location start)
    (came : Comes config faults tables start dir entries now)
    : (Node.dir entries).WellFormed ∧ (config.root.under dir).IsNulFree
      ∧ (visit config faults tables (.dir entries) (config.root.under dir) dir now).journal
        <:+: (walk config faults tables config.root .root start).journal := by
  induction came with
  | root isDir =>
      rw [PathName.under_root, walk, isDir]
      have there := rooted.get?_dirAt
      rw [isDir] at there
      exact ⟨rooted.wellFormed.at there, rooted.leads.noNul rooted.wellFormed, List.infix_rfl⟩
  | @child dir entries listing before after below name now above kept listed turn ih =>
      obtain ⟨inOrder, free, inside⟩ := ih
      subst turn
      obtain ⟨orderly, children⟩ := Node.wellFormed_dir.mp inOrder
      have member : (name, Node.dir below) ∈ before ++ (name, Node.dir below) :: after := by simp
      have each : ∀ entry ∈ before, ∀ dir' tree,
          (visit config faults tables entry.2 ((config.root.under dir).child entry.1) dir'
            tree).Completes := by
        intro entry earlier dir' tree
        have present := List.mem_append_left ((name, Node.dir below) :: after) earlier
        exact visit_completes safe faults tables (children entry present)
          (free.child (orderly.names entry present).1) dir' tree
      have whole := @infix_visitAll config faults tables before after name (.dir below)
        (config.root.under dir) each dir now
      rw [visit_of_listed free kept listed] at inside
      refine ⟨children _ member, ?_, ?_⟩
      · rw [← PathName.child_under]
        exact free.child (orderly.names _ member).1
      · rw [← PathName.child_under]
        exact (whole.trans (Step.infix_bind_first _ _)).trans
          ((List.suffix_append _ _).isInfix.trans inside)

end

end Walk

end DirMarkers
