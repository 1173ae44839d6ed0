import DirMarkers.Proofs.Run.Outside
import DirMarkers.Proofs.Run.Success

/-!
Markers that no call comes to, since their paths are too long: a run leaves them alone. The path of
a directory may be short enough although that of its marker is not, so such a directory is reached.
-/

namespace DirMarkers

open Walk (Stop Reached)

section

variable {config : Config} {faults : Faults} {location : Location} {tree : Node} {dir : DirPath}

/-- A run leaves the place of a marker alone if the path of the marker does not fit. -/
theorem kindAt_of_not_fits (known : config.HasKnownMode) (project : Project config location tree)
    (long : ¬ config.MarkerFits dir)
    : (run config faults tree).tree.kindAt (location ++ dir ++ [config.markerName])
      = tree.kindAt (location ++ dir ++ [config.markerName]) := by
  by_cases stops : ∃ stop ∈ stops config faults tree, stop.dir = dir
  · obtain ⟨stop, stopped, rfl⟩ := stops
    rcases stop.unchanged_or_changed config faults location tree
      with unchanged | ⟨event, told, change⟩
    · exact kindAt_of_unchanged known project stopped unchanged
    · have there := stops_inDir project stopped
      exact absurd (Stop.fits_of_changed project there rfl told change) long
  · refine kindAt_elsewhere known project fun stop stopped same => stops ⟨stop, stopped, ?_⟩
    simpa [eq_comm] using same

/-- An ignore file that is not there contributes no rule. -/
theorem Loading.contribution_of_missing (plain : PlainProject config location tree)
    (there : tree.kindAt (location ++ dir) = some .dir) {source : Ignore.Source}
    (missing : tree.kindAt (location ++ dir ++ [source.fileName]) = none)
    : contribution config faults tree source dir = [] := by
  rw [contribution, ignoreText?_eq plain there, missing, textOf_none, ite_self]

/-- No rules are in force in a root without ignore files. -/
theorem Loading.inForce_root_of_unruled (plain : PlainProject config location tree)
    (missing : ∀ source : Ignore.Source, tree.kindAt (location ++ [source.fileName]) = none)
    : (tables config faults tree).inForce .root = [] := by
  have there : tree.kindAt (location ++ DirPath.root) = some .dir := by
    simpa [DirPath.root] using plain.rooted.leads.ends
  have none (source : Ignore.Source) : contribution config faults tree source .root = [] :=
    contribution_of_missing plain there (by simpa [DirPath.root] using missing source)
  rw [tables, inForce_eq_chain plain.wellFormed .root, chain]
  simp [DirPath.ancestors, DirPath.root] at none ⊢
  exact ⟨none _, none _⟩

/-- A root without ignore files is reached if it can be listed. -/
theorem Walk.Reached.root_of_unruled (plain : PlainProject config location tree)
    (missing : ∀ source : Ignore.Source, tree.kindAt (location ++ [source.fileName]) = none)
    (allowed : faults.refusal? .list config.root = none)
    : Reached config faults (tables config faults tree) location tree .root := by
  have there : tree.kindAt (location ++ DirPath.root) = some .dir := by
    simpa [DirPath.root] using plain.rooted.leads.ends
  refine .root ((opens_iff plain.toProject there).mpr ⟨?_, ?_⟩)
  · rw [Loading.inForce_root_of_unruled plain missing]
    rfl
  · rwa [PathName.under_root]

/-- A call is not refused without a fault if the path is short enough. -/
theorem Faults.none_refusal?_of_le (call : Call) {path : PathName}
    (short : path.text.utf8ByteSize ≤ Tree.pathLimit)
    : Faults.none.refusal? call path = Option.none := by
  rw [refusal?, none, if_neg]
  simpa [Tree.isTooLong] using short

end

-----------------------------------------------------------------------------------------
-- A directory with a long path
-----------------------------------------------------------------------------------------

/-- The way into a directory of the top that leads into it and out again many times. -/
def detour (count : Nat) : List String :=
  (List.replicate count ["p", ".."]).flatten ++ ["p"]

/-- A root whose path is just short enough for a call. -/
def distantConfig : Config where
  root := ⟨.slash, detour 818⟩

/-- A project without a marker. -/
def unmarkedTree : Node :=
  .dir [("p", .dir [])]

/-- The same project with a marker. -/
def markedTree : Node :=
  .dir [("p", .dir [(".gitkeep", .file .empty)])]

/-- A detour leads to the directory, by induction on the times that it leads out again. -/
theorem advance_detour (entries : Entries) (count : Nat)
    : Tree.advance (.dir [("p", .dir entries)]) .follow ⟨[], .dir [("p", .dir entries)]⟩
        (detour count)
      = .arrived (.found ["p"] (.dir entries)) := by
  induction count with
  | zero => rfl
  | succ count ih =>
      rw [← ih, detour, List.replicate_succ, List.flatten_cons, List.append_assoc]
      rfl

theorem stat_detour (entries : Entries) (count : Nat)
    : Tree.stat (.dir [("p", .dir entries)]) [] (detour count) = .ok (["p"], .dir entries) := by
  simp only [Tree.stat, Tree.resolve, Tree.resolveWithin, Node.get?_nil, List.reverse_nil,
    advance_detour]
  rfl

/-- The length of the path of a detour, or of an entry of the directory that it leads to. -/
theorem utf8ByteSize_detour (count : Nat) (below : List String)
    : (PathName.text ⟨.slash, detour count ++ below⟩).utf8ByteSize
      = 5 * count + 2 + (below.map (·.utf8ByteSize + 1)).sum := by
  have some : detour count ++ below ≠ [] := by simp [detour]
  have joined := utf8ByteSize_intercalate "/" some
  have slash : "/".utf8ByteSize = 1 := rfl
  have inside : "p".utf8ByteSize = 1 := rfl
  have outside : "..".utf8ByteSize = 2 := rfl
  simp [detour, slash, inside, outside, List.map_flatten, List.sum_flatten] at joined
  simp [PathName.text, Anchor.text, slash, detour]
  omega

/-- The marker of a root at the end of a detour does not fit if its path is too long. -/
theorem Config.not_fits_of_detour {config : Config} {count : Nat}
    (far : config.root = ⟨.slash, detour count⟩)
    (long : Tree.pathLimit < 5 * count + 3 + config.markerName.utf8ByteSize)
    : ¬ config.MarkerFits .root := by
  have size := utf8ByteSize_detour count [config.markerName]
  simp only [List.map_cons, List.map_nil, List.sum_cons, List.sum_nil] at size
  simp only [Config.MarkerFits, Tree.isTooLong, decide_eq_false_iff_not, not_not,
    PathName.under_root, PathName.child, far]
  omega

/-- A call with a detour is not refused without a fault if the path is short enough. -/
theorem Faults.none_allows_detour (call : Call) (count : Nat) (below : List String)
    (short : 5 * count + 2 + (below.map (·.utf8ByteSize + 1)).sum ≤ Tree.pathLimit)
    : Faults.none.refusal? call ⟨.slash, detour count ++ below⟩ = Option.none :=
  none_refusal?_of_le call (utf8ByteSize_detour count below ▸ short)

/-- The path of the marker of the root is too long. -/
theorem distantConfig_not_fits : ¬ distantConfig.MarkerFits .root :=
  Config.not_fits_of_detour rfl (by decide)

/-- The path of the root is not too long. -/
theorem distantConfig_listable : Faults.none.refusal? .list distantConfig.root = none := by
  have allowed := Faults.none_allows_detour .list 818 [] (by decide)
  rwa [List.append_nil] at allowed

theorem unmarkedTree_project : PlainProject distantConfig ["p"] unmarkedTree :=
  .of_linkless (by decide) ⟨_, stat_detour _ _⟩ (by decide) rfl

theorem markedTree_project : PlainProject distantConfig ["p"] markedTree :=
  .of_linkless (by decide) ⟨_, stat_detour _ _⟩ (by decide) rfl

/-- The root of the project is reached, and keeps its marker or stays without one. -/
theorem unmarkedTree_reached
    : Reached distantConfig .none (tables distantConfig .none unmarkedTree) ["p"] unmarkedTree
        .root :=
  .root_of_unruled unmarkedTree_project (fun source => by cases source <;> rfl)
    distantConfig_listable

theorem markedTree_reached
    : Reached distantConfig .none (tables distantConfig .none markedTree) ["p"] markedTree .root :=
  .root_of_unruled markedTree_project (fun source => by cases source <;> rfl)
    distantConfig_listable

end DirMarkers
