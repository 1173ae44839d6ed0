import DirMarkers.Proofs.Run.Evidence
import DirMarkers.Proofs.Tree.Pruning

/-!
The summary of a run as a ledger of its changes. Putting the created markers into the tree before
the run and erasing the removed ones gives the tree after it.
-/

namespace DirMarkers

/-- Whether an event created a marker. -/
def Event.isCreation : Event → Bool
  | .created _ => true
  | _ => false

/-- Puts files of the same content at some locations, one after another. -/
def Node.putFiles (content : ByteArray) (places : List Location) (tree : Node) : Node :=
  places.foldl (Node.put (.file content)) tree

section

variable {config : Config} {location : Location}

theorem Journal.Applies.perm {tree : Node} {left right : Journal}
    (h : left.Applies config location tree) (perm : left.Perm right)
    : right.Applies config location tree := by
  have same : left.changed.Perm right.changed := perm.filterMap _
  exact {
    named := h.named
    short := fun some => h.short fun none => some (List.perm_nil.mp (none ▸ same.symm))
    nodup := same.nodup_iff.mp h.nodup
    inDir := fun dir member => h.inDir dir (same.mem_iff.mpr member)
    free := fun dir member => h.free dir (same.mem_iff.mpr member)
  }

theorem replay_creations (journal : Journal) (tree : Node)
    : Journal.replay config location (journal.filter Event.isCreation) tree
      = tree.putFiles config.markerContent.toUTF8
          ((journal.filterMap Event.created?).map
            fun dir => location ++ dir ++ [config.markerName]) := by
  induction journal generalizing tree with
  | nil => rfl
  | cons event rest ih =>
      cases event with
      | created dir => exact ih _
      | _ => exact ih tree

theorem replay_removals (journal : Journal) (tree : Node)
    : Journal.replay config location (journal.filter (!Event.isCreation ·)) tree
      = tree.eraseAll
          ((journal.filterMap Event.removed?).map
            fun dir => location ++ dir ++ [config.markerName]) := by
  induction journal generalizing tree with
  | nil => rfl
  | cons event rest ih =>
      cases event with
      | _ => exact ih _

/-- The creations and the other events of a journal change what it creates and what it removes. -/
theorem changed_parts (journal : Journal)
    : Journal.changed
        (journal.filter Event.isCreation ++ journal.filter (!Event.isCreation ·))
      = journal.filterMap Event.created? ++ journal.filterMap Event.removed? := by
  rw [Journal.changed_append, Journal.changed, Journal.changed, List.filterMap_filter,
    List.filterMap_filter]
  congr 2 <;> funext event <;> cases event <;> rfl

end

-----------------------------------------------------------------------------------------
-- The ledger
-----------------------------------------------------------------------------------------

/-- The location of an entry that a summary names. -/
def placeOf (location : Location) (text : String) : Location :=
  location ++ DirPath.ofText text

/-- The directory whose marker could not be created or removed. -/
def Event.failed? : Event → Option DirPath
  | .createFailed dir _ | .removeFailed dir _ => some dir
  | _ => none

/-- A summary is a complete and exact ledger of the changes to a tree. -/
structure Summary.Accounts (config : Config) (location : Location) (before after : Node)
    (summary : Summary) : Prop where
  balance
    : after = (before.putFiles config.markerContent.toUTF8
        (summary.created.map (placeOf location))).eraseAll
          (summary.removed.map (placeOf location))
  created : ∀ text ∈ summary.created, before.get? (placeOf location text) = none
  removed
    : ∀ text ∈ summary.removed, ∃ content,
        before.get? (placeOf location text) = some (.file content)
  distinct : (summary.created ++ summary.removed).Nodup
  inDir
    : ∀ text ∈ summary.created ++ summary.removed, ∃ dir entries,
        before.get? (location ++ dir) = some (.dir entries)
        ∧ placeOf location text = location ++ dir ++ [config.markerName]

section

variable {config : Config} {location : Location} {tree : Node}

theorem placeOf_entryText (project : Project config location tree) {dir : DirPath}
    (there : tree.kindAt (location ++ dir) = some .dir)
    : placeOf location (dir.entryText config.markerName)
      = location ++ dir ++ [config.markerName] := by
  have names : ∀ name ∈ dir, IsEntryName name := fun name member =>
    project.wellFormed.names there name (List.mem_append_right _ member)
  rw [placeOf, DirPath.ofText_entryText names project.marker, List.append_assoc]

theorem map_placeOf_entryText (project : Project config location tree) {dirs : List DirPath}
    (there : ∀ dir ∈ dirs, tree.kindAt (location ++ dir) = some .dir)
    : (dirs.map (·.entryText config.markerName)).map (placeOf location)
      = dirs.map fun dir => location ++ dir ++ [config.markerName] := by
  rw [List.map_map]
  exact List.map_congr_left fun dir member => placeOf_entryText project (there dir member)

/-- The summary of a run accounts for its changes. Witness: the changes are those of the course of
the run, in whatever order they are made.
-/
theorem course_accounts (faults : Faults) (project : Project config location tree)
    : ((course config faults tree location).summary config.markerName).Accounts config location
        tree ((course config faults tree location).replay config location tree) := by
  have applies := course_applies faults project
  have evidence := course_evidence faults project
  generalize course config faults tree location = journal at applies evidence
  -- The order of the changes does not matter, so the creations may be made before the removals.
  have perm := List.filter_append_perm Event.isCreation journal
  have createdHere {dir : DirPath}
      (member : dir ∈ journal.filterMap Event.created?) :=
    evidence _ ((Journal.mem_filterMap_view Event.created?_eq_some_iff).mp member) dir rfl
  have removedHere {dir : DirPath}
      (member : dir ∈ journal.filterMap Event.removed?) :=
    evidence _ ((Journal.mem_filterMap_view Event.removed?_eq_some_iff).mp member) dir rfl
  have createdPlaces : (journal.summary config.markerName).created.map (placeOf location)
      = (journal.filterMap Event.created?).map
          fun dir => location ++ dir ++ [config.markerName] := by
    rw [Journal.summary_created]
    exact map_placeOf_entryText project fun _ member => (createdHere member).1
  have removedPlaces : (journal.summary config.markerName).removed.map (placeOf location)
      = (journal.filterMap Event.removed?).map
          fun dir => location ++ dir ++ [config.markerName] := by
    rw [Journal.summary_removed]
    exact map_placeOf_entryText project fun _ member => (removedHere member).1
  exact {
    balance := by
      rw [applies.replay_eq (applies.perm perm.symm) project.wellFormed
          fun event _ _ => perm.symm.mem_iff,
        Journal.replay_append, replay_creations, replay_removals, createdPlaces, removedPlaces]
    created := by
      intro text member
      rw [Journal.summary_created] at member
      obtain ⟨dir, changed, rfl⟩ := List.mem_map.mp member
      rw [placeOf_entryText project (createdHere changed).1]
      exact Node.kindAt_eq_none.mp (createdHere changed).2.1
    removed := by
      intro text member
      rw [Journal.summary_removed] at member
      obtain ⟨dir, changed, rfl⟩ := List.mem_map.mp member
      rw [placeOf_entryText project (removedHere changed).1]
      obtain ⟨content, file⟩ := (removedHere changed).2
      exact ⟨content, Node.kindAt_eq_file.mp file⟩
    distinct := by
      have places : (((journal.summary config.markerName).created
          ++ (journal.summary config.markerName).removed).map (placeOf location)).Nodup := by
        have nodup := (applies.perm perm.symm).nodup
        rw [List.map_append, createdPlaces, removedPlaces, ← List.map_append, ← changed_parts,
          List.nodup_iff_pairwise_ne, List.pairwise_map]
        exact nodup.imp fun different same => different (by simpa using same)
      exact (List.pairwise_map.mp places).imp fun different same => different (congrArg _ same)
    inDir := by
      intro text member
      obtain ⟨dir, there, rfl⟩ : ∃ dir : DirPath, tree.kindAt (location ++ dir) = some .dir
          ∧ text = dir.entryText config.markerName := by
        rw [Journal.summary_created, Journal.summary_removed] at member
        rcases List.mem_append.mp member with created | removed
        · obtain ⟨dir, changed, rfl⟩ := List.mem_map.mp created
          exact ⟨dir, (createdHere changed).1, rfl⟩
        · obtain ⟨dir, changed, rfl⟩ := List.mem_map.mp removed
          exact ⟨dir, (removedHere changed).1, rfl⟩
      obtain ⟨entries, found⟩ := Node.kindAt_eq_dir.mp there
      exact ⟨dir, entries, found, placeOf_entryText project there⟩
  }

/-- A run ends with an answer, its summary accounts for its changes, and a marker that could not be
created or removed is as it was. Witness: no other event is about that marker.
-/
theorem run_accounts (faults : Faults) (known : config.HasKnownMode)
    (project : Project config location tree)
    : (∃ isEmpty, (run config faults tree).answer = .ok isEmpty)
      ∧ ((run config faults tree).journal.summary config.markerName).Accounts config location tree
          (run config faults tree).tree
      ∧ ∀ event ∈ (run config faults tree).journal, ∀ dir, event.failed? = some dir
          → (run config faults tree).tree.kindAt (location ++ dir ++ [config.markerName])
            = tree.kindAt (location ++ dir ++ [config.markerName]) := by
  have tracks := run_tracks faults known project
  refine ⟨⟨_, tracks.answer⟩, ?_, fun event happened dir failed => ?_⟩
  · rw [tracks.summary, tracks.replayed]
    exact course_accounts faults project
  · have about : event.marker? = some dir := by
      cases event <;> first | exact failed | cases failed
    have told : event ∈ course config faults tree location := by
      rw [← tracks.journal]
      refine List.mem_filter.mpr ⟨happened, ?_⟩
      cases event <;> first | rfl | cases failed
    refine tracks.frame _ fun changed member same => ?_
    obtain rfl : dir = changed := by simpa using same
    obtain ⟨other, otherTold, change⟩ := List.mem_filterMap.mp member
    obtain rfl := course_unique project told otherTold about (Event.marker?_of_changed? change)
    have unchanged : event.changed? = none := by
      cases event <;> first | rfl | cases failed
    cases change.symm.trans unchanged

/-- In a small project, one marker is created and one is removed. -/
theorem run_accounts_small
    : Summary.Accounts smallConfig ["p"] smallTree (run smallConfig .none smallTree).tree
        { created := ["bare/.gitkeep"], removed := ["full/.gitkeep"] } := by
  have accounts := run_accounts .none smallConfig_hasKnownMode smallProject
  have summary : (run smallConfig .none smallTree).journal.summary smallConfig.markerName
      = { created := ["bare/.gitkeep"], removed := ["full/.gitkeep"] } := by
    decide +kernel
  rw [summary] at accounts
  exact accounts.2.1

end

end DirMarkers
