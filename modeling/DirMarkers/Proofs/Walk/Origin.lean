import DirMarkers.Proofs.Walk.Passage
import DirMarkers.Proofs.Walk.Record

/-!
Where the events of a walk come from. Each happens where the walk has come to a directory, and it
comes to every directory that is not below one that it skips or cannot list, once.
-/

namespace DirMarkers.Walk

section

variable (config : Config) (faults : Faults) (tables : Ignore.Tables) (start : Node)

/-- What happens when a walk has come to a directory, apart from what happens further down. -/
inductive Tells : DirPath → Event → Prop
  | entering {dir : DirPath} {entries : Entries} {now : Node}
    (came : Comes config faults tables start dir entries now)
    : Tells dir (.entered dir)
  | deciding {dir : DirPath} {entries : Entries} {now : Node} {event : Event}
    (came : Comes config faults tables start dir entries now)
    (member : event ∈ (skip? config (tables.inForce dir) (config.root.under dir) dir).2)
    : Tells dir event
  | failing {dir : DirPath} {entries : Entries} {now : Node} {error : SystemError}
    (came : Comes config faults tables start dir entries now)
    (kept : (skip? config (tables.inForce dir) (config.root.under dir) dir).1 = false)
    (failed : faults.list now (config.root.under dir) = .error error)
    : Tells dir (.unlistable dir error)
  | judging {dir : DirPath} {entries listing : Entries} {now : Node} {allEmpty : Bool}
    {event : Event} (came : Comes config faults tables start dir entries now)
    (kept : (skip? config (tables.inForce dir) (config.root.under dir) dir).1 = false)
    (listed : faults.list now (config.root.under dir) = .ok listing)
    (below : (visitAll config faults tables entries (config.root.under dir) dir now).answer
      = .ok allEmpty)
    (member : event ∈ (conclude config faults (tables.inForce dir) (config.root.under dir) dir
      (fileNames listing) allEmpty
      (visitAll config faults tables entries (config.root.under dir) dir now).tree).journal)
    : Tells dir event

/-- A walk comes to a directory and goes no further down: it skips it or cannot list it. -/
def Shuts (dir : DirPath) : Prop :=
  ∃ entries now, Comes config faults tables start dir entries now
    ∧ ((skip? config (tables.inForce dir) (config.root.under dir) dir).1 = true
      ∨ (skip? config (tables.inForce dir) (config.root.under dir) dir).1 = false
        ∧ ∃ error, faults.list now (config.root.under dir) = .error error)

end

section

variable {config : Config} {faults : Faults} {tables : Ignore.Tables} {start : Node}

-----------------------------------------------------------------------------------------
-- Each event has its origin
-----------------------------------------------------------------------------------------

/-- What happens in the visits to some entries happens in the visit to one of them, when those
before it are done.
-/
theorem mem_visitAll {entries : List (String × Node)} {path : PathName} {dir : DirPath}
    {tree : Node} {event : Event}
    (member : event ∈ (visitAll config faults tables entries path dir tree).journal)
    : ∃ before name node after, entries = before ++ (name, node) :: after
      ∧ event ∈ (visit config faults tables node (path.child name) (dir.child name)
          (visitAll config faults tables before path dir tree).tree).journal := by
  induction entries generalizing tree with
  | nil => cases member
  | cons entry rest ih =>
      rw [visitAll] at member
      cases ended : (visit config faults tables entry.2 (path.child entry.1) (dir.child entry.1)
          tree).answer with
      | error crash =>
          rw [Step.bind, ended] at member
          exact ⟨[], entry.1, entry.2, rest, rfl, member⟩
      | ok answer =>
          rw [Step.bind_of_answer ended] at member
          rcases List.mem_append.mp member with first | later
          · exact ⟨[], entry.1, entry.2, rest, rfl, first⟩
          · obtain ⟨before, name, node, after, rfl, happened⟩ := ih later
            refine ⟨entry :: before, name, node, after, rfl, ?_⟩
            rw [visitAll, Step.bind_of_answer ended]
            exact happened

/-- What happens in a visit happens where the walk has come to by then, by induction on the tree. -/
theorem Comes.tells (node : Node) {dir : DirPath} {entries : Entries} {now : Node} {event : Event}
    (isDir : node = .dir entries) (came : Comes config faults tables start dir entries now)
    (member : event ∈ (visit config faults tables node (config.root.under dir) dir now).journal)
    : ∃ place, Tells config faults tables start place event := by
  induction node using Node.induction generalizing dir entries now with
  | file _ => cases isDir
  | link _ => cases isDir
  | dir inside ih =>
      cases isDir
      simp only [visit, Step.after, List.cons_append, List.mem_cons, List.mem_append] at member
      rcases member with rfl | decided | member
      · exact ⟨dir, .entering came⟩
      · exact ⟨dir, .deciding came decided⟩
      cases kept : (skip? config (tables.inForce dir) (config.root.under dir) dir).1 with
      | true =>
          rw [kept] at member
          cases member
      | false =>
          rw [kept, if_neg Bool.false_ne_true] at member
          split at member
          · cases member
          · next error _ failed =>
            obtain rfl := List.mem_singleton.mp member
            exact ⟨dir, .failing came kept failed⟩
          · next listing _ listed =>
            have deeper (happened : event ∈ (visitAll config faults tables inside
                  (config.root.under dir) dir now).journal)
                : ∃ place, Tells config faults tables start place event := by
              obtain ⟨before, name, node, after, turn, happened⟩ := mem_visitAll happened
              rw [PathName.child_under] at happened
              cases node with
              | file _ => cases happened
              | link _ => cases happened
              | dir below =>
                  have present : (name, .dir below) ∈ inside := turn ▸ List.mem_append_right _
                    List.mem_cons_self
                  exact ih _ present rfl (came.child kept listed turn) happened
            cases below : (visitAll config faults tables inside (config.root.under dir) dir
                now).answer with
            | error crash =>
                rw [Step.bind, below] at member
                exact deeper member
            | ok allEmpty =>
                rw [Step.bind_of_answer below] at member
                rcases List.mem_append.mp member with first | last
                · exact deeper first
                · exact ⟨dir, .judging came kept listed below last⟩

/-- Whatever happens in a walk happens where it comes to. -/
theorem mem_walk {event : Event}
    (member : event ∈ (walk config faults tables config.root .root start).journal)
    : ∃ place, Tells config faults tables start place event := by
  obtain ⟨entries, isDir⟩ := dirAt_eq_dir start config.root
  rw [walk, ← PathName.under_root config.root] at member
  refine Comes.tells _ ?_ (.root isDir) member
  rw [PathName.under_root, isDir]

/-- Until it is decided whether a directory is skipped, nothing else is told of it. -/
theorem mem_skip? {rules : List Rule} {path : PathName} {dir : DirPath} {event : Event}
    (member : event ∈ (skip? config rules path dir).2)
    : (∃ rule path isDir, event = .matched rule path isDir)
      ∨ (skip? config rules path dir).1 = true ∧ event.skipped? = some dir := by
  have matched {event : Event} (member : event ∈ matchEvents rules dir.text true)
      : ∃ rule path isDir, event = .matched rule path isDir := by
    obtain ⟨rule, _, rfl⟩ := List.mem_map.mp member
    exact ⟨_, _, _, rfl⟩
  rw [skip?] at member ⊢
  split at member
  · next excluded =>
    rw [if_pos excluded, List.mem_singleton.mp member]
    exact .inr ⟨rfl, rfl⟩
  · next included =>
    rw [if_neg included]
    split at member
    · next ignored =>
      rw [if_pos ignored]
      rcases List.mem_append.mp member with member | member
      · exact .inl (matched member)
      · rw [List.mem_singleton.mp member]
        exact .inr ⟨rfl, rfl⟩
    · exact .inl (matched member)

/-- When a directory is judged, nothing is told but what is told when its marker is settled. -/
theorem mem_conclude {rules : List Rule} {path : PathName} {dir : DirPath} {files : List String}
    {allEmpty : Bool} {tree : Node} {event : Event}
    (member : event ∈ (conclude config faults rules path dir files allEmpty tree).journal)
    (told : event.dir?.isSome)
    : event ∈ (Marker.settle config faults path dir (!files.any (isVisible config rules dir)
        && allEmpty) (files.contains config.markerName) tree).journal := by
  refine (List.mem_append.mp member).resolve_left fun judged => ?_
  have silent := Journal.told_of_traces
    (Journal.notable_flatMap files (fileEvents config rules dir) fun name _ =>
      notable_fileEvents config rules dir name)
  rw [List.filterMap_eq_nil_iff.mp silent event judged] at told
  cases told

/-- What is told of a directory is told where the walk has come to it. -/
theorem Tells.comes {place dir : DirPath} {event : Event}
    (tells : Tells config faults tables start place event) (told : event.dir? = some dir)
    : place = dir ∧ ∃ entries now, Comes config faults tables start dir entries now := by
  cases tells with
  | entering came => cases told
  | failing came kept failed =>
      obtain rfl := Option.some.inj told
      exact ⟨rfl, _, _, came⟩
  | deciding came member =>
      rcases mem_skip? member with ⟨rule, path, isDir, rfl⟩ | ⟨_, skipped⟩
      · cases told
      · obtain rfl := Option.some.inj ((Event.dir?_of_skipped? skipped).symm.trans told)
        exact ⟨rfl, _, _, came⟩
  | judging came kept listed below member =>
      have about := marker?_settle (mem_conclude member (told ▸ rfl))
      obtain rfl := Option.some.inj ((Event.dir?_of_marker? about).symm.trans told)
      exact ⟨rfl, _, _, came⟩

theorem Tells.entered {place dir : DirPath} (tells : Tells config faults tables start place
    (.entered dir))
    : ∃ entries now, Comes config faults tables start dir entries now := by
  cases tells with
  | entering came => exact ⟨_, _, came⟩
  | deciding came member => exact absurd member (skip?_entersNone _ _ _ _ _)
  | judging came kept listed below member =>
      exact absurd member (conclude_entersNone _ _ _ _ _ _ _)

/-- A directory that a walk tells to be skipped is skipped when the walk has come to it. -/
theorem Tells.skipped {place dir : DirPath} {event : Event}
    (tells : Tells config faults tables start place event) (skipped : event.skipped? = some dir)
    : ∃ entries now, Comes config faults tables start dir entries now
      ∧ (skip? config (tables.inForce dir) (config.root.under dir) dir).1 = true := by
  cases tells with
  | entering came => cases skipped
  | failing came kept failed => cases skipped
  | deciding came member =>
      rcases mem_skip? member with ⟨rule, path, isDir, rfl⟩ | ⟨skips, told⟩
      · cases skipped
      · obtain rfl := Option.some.inj (told.symm.trans skipped)
        exact ⟨_, _, came, skips⟩
  | judging came kept listed below member =>
      have told : event.dir?.isSome := by cases event <;> first | rfl | cases skipped
      have about := marker?_settle (mem_conclude member told)
      cases event <;> first | cases skipped; done | cases about

/-- A directory that a walk tells to be unlistable cannot be listed when the walk has come to it. -/
theorem Tells.unlistable {place dir : DirPath} {error : SystemError}
    (tells : Tells config faults tables start place (.unlistable dir error))
    : ∃ entries now, Comes config faults tables start dir entries now
      ∧ (skip? config (tables.inForce dir) (config.root.under dir) dir).1 = false
      ∧ faults.list now (config.root.under dir) = .error error := by
  cases tells with
  | failing came kept failed => exact ⟨_, _, came, kept, failed⟩
  | deciding came member =>
      rcases mem_skip? member with ⟨rule, path, isDir, same⟩ | ⟨_, told⟩
      · cases same
      · cases told
  | judging came kept listed below member =>
      cases marker?_settle (mem_conclude member rfl)

end

-----------------------------------------------------------------------------------------
-- A walk comes to a directory once
-----------------------------------------------------------------------------------------

section

variable {config : Config} {faults : Faults} {tables : Ignore.Tables} {start : Node}
  {location : Location}

/-- How a walk comes to a subdirectory. -/
theorem comes_child {dir : DirPath} {name : String} {below : Entries} {now : Node}
    (came : Comes config faults tables start (dir.child name) below now)
    : ∃ entries listing before after then_, Comes config faults tables start dir entries then_
      ∧ (skip? config (tables.inForce dir) (config.root.under dir) dir).1 = false
      ∧ faults.list then_ (config.root.under dir) = .ok listing
      ∧ entries = before ++ (name, .dir below) :: after
      ∧ now = (visitAll config faults tables before (config.root.under dir) dir then_).tree := by
  generalize place : dir.child name = goal at came
  cases came with
  | root isDir => exact absurd place (by simp [DirPath.child, DirPath.root])
  | child above kept listed turn =>
      obtain ⟨rfl, rfl⟩ := List.append_singleton_inj.mp place
      exact ⟨_, _, _, _, _, above, kept, listed, turn, rfl⟩

/-- A walk that comes to a place further down has gone on from here. -/
theorem Comes.above {dir below : DirPath} {inner : Entries} {now : Node}
    (came : Comes config faults tables start (dir ++ below) inner now) (some : below ≠ [])
    : ∃ entries then_ listing, Comes config faults tables start dir entries then_
      ∧ (skip? config (tables.inForce dir) (config.root.under dir) dir).1 = false
      ∧ faults.list then_ (config.root.under dir) = .ok listing := by
  induction below using List.reverseRecOn generalizing inner now with
  | nil => exact absurd rfl some
  | append_singleton middle name ih =>
      rw [← List.append_assoc] at came
      obtain ⟨entries, listing, _, _, then_, above, kept, listed, _⟩ := comes_child came
      cases middle with
      | nil =>
          rw [List.append_nil] at above kept listed
          exact ⟨entries, then_, listing, above, kept, listed⟩
      | cons first rest => exact ih above (List.cons_ne_nil _ _)

variable (rooted : Rooted config.root location start)

include rooted

/-- A walk finds the entries of a directory as they were at its start. -/
theorem Comes.original {dir : DirPath} {entries : Entries} {now : Node}
    (came : Comes config faults tables start dir entries now)
    : start.get? (location ++ dir) = some (.dir entries) := by
  induction came with
  | root isDir => rw [← isDir]; exact rooted.get?_dirAt
  | @child dir entries _ before after below name _ _ _ _ turn ih =>
      have member : (name, Node.dir below) ∈ entries := by simp [turn]
      exact rooted.wellFormed.get?_child ih member

/-- A walk comes to a directory once: with the same entries, and when the tree is the same. -/
theorem Comes.unique {dir : DirPath} {entries others : Entries} {now then_ : Node}
    (came : Comes config faults tables start dir entries now)
    (again : Comes config faults tables start dir others then_)
    : entries = others ∧ now = then_ := by
  induction came generalizing others then_ with
  | root isDir =>
      generalize place : DirPath.root = dir at again
      cases again with
      | root also => exact ⟨Node.dir.inj (isDir.symm.trans also), rfl⟩
      | child => exact absurd place.symm (by simp [DirPath.child, DirPath.root])
  | @child dir entries _ before after below name _ above _ _ turn ih =>
      obtain ⟨_, _, earlier, later, _, also, _, _, split, rfl⟩ := comes_child again
      obtain ⟨rfl, rfl⟩ := ih also
      have orderly := rooted.wellFormed.orderly (above.original rooted)
      obtain ⟨rfl, same⟩ := Entries.split_unique orderly.increasing turn split
      exact ⟨Node.dir.inj same, rfl⟩

/-- A walk comes to every directory that is not below one where it goes no further. -/
theorem comes_or_shut {dir : DirPath} (isDir : start.kindAt (location ++ dir) = some .dir)
    : (∃ above below, below ≠ [] ∧ dir = above ++ below ∧ Shuts config faults tables start above)
      ∨ ∃ entries now, Comes config faults tables start dir entries now := by
  induction dir using List.reverseRecOn with
  | nil =>
      obtain ⟨entries, there⟩ := dirAt_eq_dir start config.root
      exact .inr ⟨entries, start, .root there⟩
  | append_singleton dir name ih =>
      rw [← List.append_assoc] at isDir
      rcases ih (Node.dir_of_kindAt_below isDir) with ⟨above, below, some, rfl, shut⟩ | came
      · exact .inl ⟨above, below ++ [name], by simp, List.append_assoc .., shut⟩
      · obtain ⟨entries, now, came⟩ := came
        cases kept : (skip? config (tables.inForce dir) (config.root.under dir) dir).1 with
        | true => exact .inl ⟨dir, [name], by simp, rfl, _, _, came, .inl kept⟩
        | false =>
            cases listed : faults.list now (config.root.under dir) with
            | error error =>
                exact .inl ⟨dir, [name], by simp, rfl, _, _, came, .inr ⟨kept, error, listed⟩⟩
            | ok listing =>
                obtain ⟨below, there⟩ := Node.kindAt_eq_dir.mp isDir
                rw [Node.get?_entry (came.original rooted)] at there
                obtain ⟨before, after, turn⟩ :=
                  List.append_of_mem (Entries.mem_of_find? there)
                exact .inr ⟨below, _, came.child kept listed turn⟩

/-- A walk does not come to what is below a directory where it goes no further. -/
theorem Comes.not_shut {dir below : DirPath} {entries : Entries} {now : Node}
    (came : Comes config faults tables start (dir ++ below) entries now) (some : below ≠ [])
    : ¬ Shuts config faults tables start dir := by
  intro shut
  obtain ⟨_, then_, also, skips⟩ := shut
  obtain ⟨_, _, listing, above, kept, listed⟩ := came.above some
  obtain ⟨_, rfl⟩ := above.unique rooted also
  rcases skips with skipped | ⟨_, error, failed⟩
  · cases kept.symm.trans skipped
  · cases listed.symm.trans failed

end

end DirMarkers.Walk
