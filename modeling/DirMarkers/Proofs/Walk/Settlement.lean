import DirMarkers.Proofs.Run.Tracking
import DirMarkers.Proofs.Spelling

/-!
The marker of one directory. What is done about it depends on the kind of what stands in its place,
so settling it against the tree as it is by then comes to the same as settling it against an
earlier tree.
-/

namespace DirMarkers

theorem Faults.crash?_eq_none (faults : Faults) (call : Call) {path : PathName}
    (parts : ∀ part ∈ path.parts, '\x00' ∉ part.toList)
    : faults.crash? call path = Option.none := by
  rw [Faults.crash?, PathName.holdsNul_text parts, Bool.and_false]
  rfl

namespace Project

variable {config : Config} {location : Location} {tree : Node} {dir : DirPath}

/-- No component of the path of a directory ends the path early: those of the root lead through
entries of the tree, and those below it are entries themselves.
-/
theorem noNul_under (h : Project config location tree)
    (there : tree.kindAt (location ++ dir) = some .dir)
    : ∀ part ∈ (config.root.under dir).parts, '\x00' ∉ part.toList := by
  intro part member
  rcases List.mem_append.mp member with above | below
  · exact h.rooted.leads.noNul h.wellFormed part above
  · exact (h.wellFormed.names there part (List.mem_append_right _ below)).noNul

theorem crash?_dir (h : Project config location tree)
    (there : tree.kindAt (location ++ dir) = some .dir) (faults : Faults) (call : Call)
    : faults.crash? call (config.root.under dir) = none :=
  faults.crash?_eq_none call (h.noNul_under there)

theorem crash?_marker (h : Project config location tree)
    (there : tree.kindAt (location ++ dir) = some .dir) (faults : Faults) (call : Call)
    : faults.crash? call ((config.root.under dir).child config.markerName) = none := by
  refine faults.crash?_eq_none call fun part member => ?_
  rcases List.mem_append.mp member with inside | last
  · exact h.noNul_under there part inside
  · exact List.mem_singleton.mp last ▸ h.marker.noNul

end Project

/-- A mode that a run knows says what is to be done about a marker. -/
theorem Marker.exists_duty {config : Config} (known : config.HasKnownMode)
    (isEmpty hasMarker : Bool)
    : ∃ duty, Marker.duty config.mode isEmpty hasMarker = .ok duty := by
  cases mode : config.mode with
  | unknown name => exact absurd mode (known name)
  | _ => exact ⟨_, rfl⟩

section

variable {config : Config} {location : Location} {tree first : Node} {dir : DirPath}
  (project : Project config location tree) (start : Project config location first)
  (there : tree.kindAt (location ++ dir) = some .dir)
  (original : first.kindAt (location ++ dir) = some .dir)
  (same : tree.kindAt (location ++ dir ++ [config.markerName])
    = first.kindAt (location ++ dir ++ [config.markerName]))

include project start there original same

/-- Creating a marker fails or succeeds as it would have at the start. -/
theorem Marker.create_tracks (faults : Faults)
    : Tracks config location tree
        (Marker.create config faults (config.root.under dir) dir tree) ()
        (Marker.create config faults (config.root.under dir) dir first).journal := by
  have wellFormed := project.wellFormed
  obtain ⟨entries, listed⟩ := Node.kindAt_eq_dir.mp there
  obtain ⟨_, listedFirst⟩ := Node.kindAt_eq_dir.mp original
  have write := project.rooted.write_eq listed project.marker (project.notLink _) faults
    config.markerContent.toUTF8
  have writeFirst := start.rooted.write_eq listedFirst start.marker (start.notLink _) faults
    config.markerContent.toUTF8
  rw [← same] at writeFirst
  simp only [Marker.create, PathName.join_entry _ project.marker,
    project.crash?_marker there faults .write]
  by_cases dry : config.dryRun = true
  · simp only [if_pos dry]
    exact .still wellFormed () rfl rfl
  simp only [if_neg dry, write, writeFirst]
  cases faults.refusal? .write ((config.root.under dir).child config.markerName) with
  | some error => exact .still wellFormed () rfl rfl
  | none =>
      by_cases long : Tree.nameLimit < config.markerName.utf8ByteSize
      · simp only [if_pos long]
        exact .still wellFormed () rfl rfl
      simp only [if_neg long]
      have put (free : tree.HoldsNoMoreThanFile (location ++ dir ++ [config.markerName]))
          : Tracks config location tree
              ⟨.ok (), Node.put (.file config.markerContent.toUTF8) tree
                (location ++ dir ++ [config.markerName]), [.created dir]⟩
              () [.created dir] := by
        refine .change rfl rfl ?_ (Node.alikeBut_put_file listed free _) fun other outside => ?_
        · exact wellFormed.put_file listed project.marker (Nat.le_of_not_lt long) _
        · rw [Node.kindAt_put_file listed free.notDir, if_neg outside]
      cases kind : tree.kindAt (location ++ dir ++ [config.markerName]) with
      | none => exact put fun other found => nomatch kind.symm.trans found
      | some kind' =>
          cases kind' with
          | dir => exact .still wellFormed () rfl rfl
          | link target => exact absurd kind (project.notLink _ target)
          | file content =>
              exact put fun other found => ⟨content, Option.some.inj (found.symm.trans kind)⟩

/-- Removing a marker fails or succeeds as it would have at the start. -/
theorem Marker.remove_tracks (faults : Faults)
    : Tracks config location tree
        (Marker.remove config faults (config.root.under dir) dir tree) ()
        (Marker.remove config faults (config.root.under dir) dir first).journal := by
  have wellFormed := project.wellFormed
  obtain ⟨entries, listed⟩ := Node.kindAt_eq_dir.mp there
  obtain ⟨_, listedFirst⟩ := Node.kindAt_eq_dir.mp original
  have remove := project.rooted.remove_eq listed project.marker (project.notLink _) faults
  have removeFirst := start.rooted.remove_eq listedFirst start.marker (start.notLink _) faults
  rw [← same] at removeFirst
  simp only [Marker.remove, PathName.join_entry _ project.marker,
    project.crash?_marker there faults .remove]
  by_cases dry : config.dryRun = true
  · simp only [if_pos dry]
    exact .still wellFormed () rfl rfl
  simp only [if_neg dry, remove, removeFirst]
  cases faults.refusal? .remove ((config.root.under dir).child config.markerName) with
  | some error => exact .still wellFormed () rfl rfl
  | none =>
      by_cases long : Tree.nameLimit < config.markerName.utf8ByteSize
      · simp only [if_pos long]
        exact .still wellFormed () rfl rfl
      simp only [if_neg long]
      cases kind : tree.kindAt (location ++ dir ++ [config.markerName]) with
      | none => exact .still wellFormed () rfl rfl
      | some kind' =>
          cases kind' with
          | dir => exact .still wellFormed () rfl rfl
          | link target => exact absurd kind (project.notLink _ target)
          | file content =>
              have free : tree.HoldsNoMoreThanFile (location ++ dir ++ [config.markerName]) :=
                fun other found => ⟨content, Option.some.inj (found.symm.trans kind)⟩
              refine .change rfl rfl (wellFormed.erase_entry listed _)
                (Node.alikeBut_erase listed free) fun other outside => ?_
              rw [Node.kindAt_erase listed free.notDir, if_neg outside]

/-- Settling a marker is doing at the running tree what would have been done at the start, by
cases on what is to be done.
-/
theorem Marker.settle_tracks (faults : Faults) (known : config.HasKnownMode)
    (isEmpty hasMarker : Bool)
    : Tracks config location tree
        (Marker.settle config faults (config.root.under dir) dir isEmpty hasMarker tree) ()
        (Marker.settle config faults (config.root.under dir) dir isEmpty hasMarker
          first).journal := by
  have wellFormed := project.wellFormed
  obtain ⟨duty, decided⟩ := Marker.exists_duty known isEmpty hasMarker
  simp only [Marker.settle, decided]
  cases duty with
  | leave => exact .still wellFormed () rfl rfl
  | create => exact Marker.create_tracks project start there original same faults
  | remove => exact Marker.remove_tracks project start there original same faults
  | reportMissing => exact .still wellFormed () rfl rfl
  | reportSpare => exact .still wellFormed () rfl rfl

end

end DirMarkers
