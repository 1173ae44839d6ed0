import DirMarkers.Proofs.Walk.Settlement
import DirMarkers.Proofs.Walk.Survey

/-!
A walk does what the survey of the tree at its start says, although it changes the tree on the way.
By the time a directory is judged, markers have come and gone in the directories below it and in
those before it, and none of these is the place of its own marker.
-/

namespace DirMarkers

/-- Whether there is a file at a location. -/
def Node.hasFileAt (tree : Node) (location : Location) : Bool :=
  (tree.get? location).any Node.isFile

/-- What was to be done about a marker when an event told of it. -/
def Event.duty : Event → Duty
  | .wouldCreate _ | .created _ | .createFailed .. => .create
  | .wouldRemove _ | .removed _ | .removeFailed .. => .remove
  | .markerMissing _ => .reportMissing
  | .markerSpare _ => .reportSpare
  | _ => .leave

namespace Walk

/-- The notable events at one stop of a walk that found the tree as it was at the start. -/
def Stop.journal (config : Config) (faults : Faults) (location : Location) (start : Node)
    (stop : Stop) : Journal :=
  match stop.finding with
  | .excluded => [.excluded stop.dir]
  | .ignored => [.ignored stop.dir]
  | .unlistable error => [.unlistable stop.dir error]
  | .judged isEmpty =>
    (Marker.settle config faults (config.root.under stop.dir) stop.dir isEmpty
      (start.hasFileAt (location ++ stop.dir ++ [config.markerName])) start).journal

/-- The notable events of a walk with the given stops. -/
def journal (config : Config) (faults : Faults) (location : Location) (start : Node)
    (stops : List Stop) : Journal :=
  stops.flatMap (Stop.journal config faults location start)

/-- Settling a marker is at most one event, which is about this marker and tells what was to be
done.
-/
theorem settle_journal (config : Config) (faults : Faults) (path : PathName) (dir : DirPath)
    (isEmpty hasMarker : Bool) (tree : Node)
    : (Marker.settle config faults path dir isEmpty hasMarker tree).journal = []
      ∨ ∃ event, (Marker.settle config faults path dir isEmpty hasMarker tree).journal = [event]
          ∧ event.marker? = some dir
          ∧ Marker.duty config.mode isEmpty hasMarker = .ok event.duty := by
  rw [Marker.settle]
  cases Marker.duty config.mode isEmpty hasMarker with
  | error crash => exact .inl rfl
  | ok duty =>
      cases duty with
      | leave => exact .inl rfl
      | create =>
          simp only [Marker.perform, Marker.create]
          split
          · exact .inr ⟨_, rfl, rfl, rfl⟩
          · split
            · exact .inl rfl
            · exact .inr ⟨_, rfl, rfl, rfl⟩
            · exact .inr ⟨_, rfl, rfl, rfl⟩
      | remove =>
          simp only [Marker.perform, Marker.remove]
          split
          · exact .inr ⟨_, rfl, rfl, rfl⟩
          · split
            · exact .inl rfl
            · exact .inr ⟨_, rfl, rfl, rfl⟩
            · exact .inr ⟨_, rfl, rfl, rfl⟩
      | reportMissing => exact .inr ⟨_, rfl, rfl, rfl⟩
      | reportSpare => exact .inr ⟨_, rfl, rfl, rfl⟩

/-- Whatever is told when a marker is settled is told of it. -/
theorem marker?_settle {config : Config} {faults : Faults} {path : PathName} {dir : DirPath}
    {isEmpty hasMarker : Bool} {tree : Node} {event : Event}
    (told : event ∈ (Marker.settle config faults path dir isEmpty hasMarker tree).journal)
    : event.marker? = some dir := by
  rcases settle_journal config faults path dir isEmpty hasMarker tree with
    none | ⟨only, one, about, _⟩
  · rw [none] at told
    cases told
  · rw [one] at told
    exact List.mem_singleton.mp told ▸ about

/-- Whatever is told when a marker is settled is notable. -/
theorem notable_settle (config : Config) (faults : Faults) (path : PathName) (dir : DirPath)
    (isEmpty hasMarker : Bool) (tree : Node)
    : (Marker.settle config faults path dir isEmpty hasMarker tree).journal.notable
      = (Marker.settle config faults path dir isEmpty hasMarker tree).journal := by
  refine List.filter_eq_self.mpr fun event told => ?_
  have about := marker?_settle told
  cases event <;> first | rfl | cases about

section

variable {config : Config} {faults : Faults} {location : Location} {start : Node}

/-- At a stop, at most one event is about a marker: about the one of that directory, once it was
judged.
-/
theorem Stop.marker_journal {stop : Stop} {event : Event} {dir : DirPath}
    (member : event ∈ stop.journal config faults location start) (about : event.marker? = some dir)
    : dir = stop.dir ∧ stop.journal config faults location start = [event]
      ∧ ∃ isEmpty, stop.finding = .judged isEmpty
        ∧ Marker.duty config.mode isEmpty
            (start.hasFileAt (location ++ stop.dir ++ [config.markerName])) = .ok event.duty := by
  obtain ⟨place, finding⟩ := stop
  cases finding with
  | judged isEmpty =>
      simp only [journal] at member ⊢
      rcases settle_journal config faults (config.root.under place) place isEmpty
        (start.hasFileAt (location ++ place ++ [config.markerName])) start
        with none | ⟨only, one, here, duty⟩
      · rw [none] at member
        cases member
      · rw [one] at member ⊢
        obtain rfl := List.mem_singleton.mp member
        exact ⟨Option.some.inj (about.symm.trans here), rfl, isEmpty, rfl, duty⟩
  | _ => cases List.mem_singleton.mp member; cases about

theorem changed_journal {stops : List Stop} {dir : DirPath}
    (member : dir ∈ (journal config faults location start stops).changed)
    : ∃ stop ∈ stops, dir = stop.dir := by
  obtain ⟨event, happened, change⟩ := List.mem_filterMap.mp member
  obtain ⟨stop, present, here⟩ := List.mem_flatMap.mp happened
  exact ⟨stop, present, (Stop.marker_journal here (Event.marker?_of_changed? change)).1⟩

end

-----------------------------------------------------------------------------------------
-- A visit to one directory
-----------------------------------------------------------------------------------------

/-- A listing has the name of a file if and only if a file of that name is among its entries. -/
theorem contains_fileNames {entries : Entries} (increasing : entries.Pairwise (·.1 < ·.1))
    (name : String)
    : (fileNames entries).contains name = (Entries.find? entries name).any Node.isFile := by
  rw [Bool.eq_iff_iff, List.contains_iff_mem, Option.any_eq_true, fileNames, List.mem_map]
  constructor
  · rintro ⟨⟨other, node⟩, member, rfl⟩
    obtain ⟨present, isFile⟩ := List.mem_filter.mp member
    exact ⟨node, Entries.find?_of_mem increasing present, isFile⟩
  · rintro ⟨node, found, isFile⟩
    exact ⟨(name, node), List.mem_filter.mpr ⟨Entries.mem_of_find? found, isFile⟩, rfl⟩

@[simp] theorem notable_matchEvents (rules : List Rule) (path : String) (isDir : Bool)
    : (matchEvents rules path isDir).notable = [] := by
  simp [matchEvents, Journal.notable, Event.isNotable]

theorem notable_fileEvents (config : Config) (rules : List Rule) (dir : DirPath) (name : String)
    : (fileEvents config rules dir name).notable = [] := by
  simp only [fileEvents]
  split
  · rfl
  · split
    · rw [Journal.notable_append, notable_matchEvents]
      rfl
    · exact notable_matchEvents ..

/-- Below the root, a directory is excluded by the last of its names. -/
theorem skip?_under (config : Config) (rules : List Rule) (dir : DirPath)
    : skip? config rules (config.root.under dir) dir
      = if dir ≠ .root ∧ config.excludes (dir.getLast?.getD "") then (true, [.excluded dir])
        else if Ignore.isIgnored rules dir.text true then
          (true, matchEvents rules dir.text true ++ [.ignored dir])
        else (false, matchEvents rules dir.text true) := by
  rw [skip?]
  by_cases below : dir ≠ .root
  · rw [config.root.name_under below]
  · simp only [below, false_and, if_false]

/-- A walk judges a directory that it neither skips nor is refused to list. -/
theorem unbarred_iff {config : Config} {faults : Faults} {tables : Ignore.Tables} {dir : DirPath}
    : barrier? config faults tables dir = none
      ↔ (skip? config (tables.inForce dir) (config.root.under dir) dir).1 = false
        ∧ faults.refusal? .list (config.root.under dir) = none := by
  rw [skip?_under, barrier?]
  split
  · simp
  · split <;> simp

section

variable {config : Config} {faults : Faults} {tables : Ignore.Tables} {location : Location}
  {tree start : Node} {dir : DirPath} {entries : Entries}
  (project : Project config location tree)
  (there : tree.get? (location ++ dir) = some (.dir entries))

include project there

/-- A directory that something keeps from being judged is left alone and counts as empty. -/
theorem visit_barred {finding : Finding}
    (barred : barrier? config faults tables dir = some finding)
    : Tracks config location tree
        (visit config faults tables (.dir entries) (config.root.under dir) dir tree) true
        (Stop.journal config faults location start ⟨dir, finding⟩) := by
  have wellFormed := project.wellFormed
  rw [barrier?] at barred
  rw [visit, skip?_under]
  by_cases excluded : dir ≠ .root ∧ config.excludes (dir.getLast?.getD "")
  · rw [if_pos excluded] at barred ⊢
    obtain rfl := Option.some.inj barred
    exact .still wellFormed true rfl rfl
  rw [if_neg excluded] at barred ⊢
  by_cases ignored : Ignore.isIgnored (tables.inForce dir) dir.text true = true
  · rw [if_pos ignored] at barred ⊢
    obtain rfl := Option.some.inj barred
    exact .still wellFormed true (by simp [Stop.journal, Step.pure, Event.isNotable]) rfl
  rw [if_neg ignored] at barred ⊢
  obtain ⟨error, refused, rfl⟩ := Option.map_eq_some_iff.mp barred
  simp only [project.crash?_dir (Node.kindAt_eq_dir.mpr ⟨_, there⟩) faults .list,
    project.rooted.list_eq there, refused]
  exact .still wellFormed true
    (by simp [Stop.journal, Step.pure, Step.after, Event.isNotable]) rfl

/-- Nothing notable comes before the subdirectories of a directory that is judged. -/
theorem visit_open (faults : Faults) (tables : Ignore.Tables)
    (unbarred : barrier? config faults tables dir = none)
    : ∃ before : Journal, before.notable = []
      ∧ visit config faults tables (.dir entries) (config.root.under dir) dir tree
        = ((visitAll config faults tables entries (config.root.under dir) dir tree).bind
            (conclude config faults (tables.inForce dir) (config.root.under dir) dir
              (fileNames entries))).after before := by
  rw [barrier?] at unbarred
  by_cases excluded : dir ≠ .root ∧ config.excludes (dir.getLast?.getD "")
  · rw [if_pos excluded] at unbarred
    cases unbarred
  rw [if_neg excluded] at unbarred
  by_cases ignored : Ignore.isIgnored (tables.inForce dir) dir.text true = true
  · rw [if_pos ignored] at unbarred
    cases unbarred
  rw [if_neg ignored] at unbarred
  refine ⟨.entered dir :: matchEvents (tables.inForce dir) dir.text true, ?_, ?_⟩
  · simp [Event.isNotable]
  · rw [visit, skip?_under, if_neg excluded, if_neg ignored]
    simp only [project.crash?_dir (Node.kindAt_eq_dir.mpr ⟨_, there⟩) faults .list,
      project.rooted.list_eq there, Option.map_eq_none_iff.mp unbarred]
    rfl

end

/-- A directory is judged by its files as it was listed, and by the answers for its subdirectories.
-/
theorem conclude_tracks {config : Config} {faults : Faults} {tables : Ignore.Tables}
    {location : Location} {tree start : Node} {dir : DirPath} {entries : Entries}
    (known : config.HasKnownMode) (project : Project config location tree)
    (begun : Project config location start)
    (there : tree.kindAt (location ++ dir) = some .dir)
    (original : start.get? (location ++ dir) = some (.dir entries))
    (same : tree.kindAt (location ++ dir ++ [config.markerName])
      = start.kindAt (location ++ dir ++ [config.markerName]))
    (unbarred : barrier? config faults tables dir = none)
    : Tracks config location tree
        (conclude config faults (tables.inForce dir) (config.root.under dir) dir
          (fileNames entries) (areVacant config faults tables entries dir) tree)
        (isVacant config faults tables (.dir entries) dir)
        (Stop.journal config faults location start
          ⟨dir, .judged (isVacant config faults tables (.dir entries) dir)⟩) := by
  have hasMarker : (fileNames entries).contains config.markerName
      = start.hasFileAt (location ++ dir ++ [config.markerName]) := by
    rw [contains_fileNames (begun.wellFormed.orderly original).increasing, Node.hasFileAt,
      Node.get?_entry original]
  have isEmpty : isVacant config faults tables (.dir entries) dir
      = (!(fileNames entries).any (isVisible config (tables.inForce dir) dir)
          && areVacant config faults tables entries dir) := by
    rw [isVacant, unbarred]
    rfl
  have silent : Journal.notable
      ((fileNames entries).flatMap (fileEvents config (tables.inForce dir) dir)) = [] :=
    Journal.notable_flatMap _ _ fun name _ => notable_fileEvents ..
  have settled := Marker.settle_tracks project begun there
    (Node.kindAt_eq_dir.mpr ⟨_, original⟩) same faults known
    (isVacant config faults tables (.dir entries) dir)
    (start.hasFileAt (location ++ dir ++ [config.markerName]))
  simp only [conclude, hasMarker, ← isEmpty]
  exact (settled.map fun _ => isVacant config faults tables (.dir entries) dir).after silent rfl

-----------------------------------------------------------------------------------------
-- A visit to a whole tree
-----------------------------------------------------------------------------------------

section

variable (config : Config) (faults : Faults) (tables : Ignore.Tables) (location : Location)
  (start : Node)

/-- A visit to a node of the tree at the start does what the survey of the node says, wherever the
running tree still has that node.
-/
def Follows (node : Node) : Prop :=
  ∀ {dir : DirPath} {tree : Node}, Project config location tree
    → tree.get? (location ++ dir) = some node → start.get? (location ++ dir) = some node
    → Tracks config location tree
        (visit config faults tables node (config.root.under dir) dir tree)
        (isVacant config faults tables node dir)
        (journal config faults location start (survey config faults tables node dir))

end

section

variable {config : Config} {faults : Faults} {tables : Ignore.Tables} {location : Location}
  {start : Node}

/-- A step whose stops are in some subdirectories leaves the other ones as they were. -/
theorem get?_child_of_tracks {α : Type} {step : Step α} {answer : α} {stops : List Stop}
    {dir : DirPath} {tree : Node} {name : String} (project : Project config location tree)
    (tracks : Tracks config location tree step answer (journal config faults location start stops))
    (apart : ∀ stop ∈ stops, ∃ other, dir.child other <+: stop.dir ∧ other ≠ name)
    : step.tree.get? (location ++ dir.child name) = tree.get? (location ++ dir.child name) := by
  refine tracks.wellFormed.get?_eq project.wellFormed fun below => tracks.frame _ ?_
  intro changed change same
  obtain ⟨stop, stopped, rfl⟩ := changed_journal change
  obtain ⟨other, ⟨under, placed⟩, differs⟩ := apart stop stopped
  simp only [← placed, DirPath.child, List.append_assoc, List.append_cancel_left_eq,
    List.cons_append, List.cons.injEq] at same
  exact differs same.1.symm

/-- A visit to one entry leaves those with larger names as they were. -/
theorem later_of_tracks {α : Type} {step : Step α} {answer : α} {dir : DirPath} {tree node : Node}
    {name : String} {rest : List (String × Node)} (project : Project config location tree)
    (there : tree.get? (location ++ dir.child name) = some node)
    (tracks : Tracks config location tree step answer
      (journal config faults location start (survey config faults tables node (dir.child name))))
    (larger : ∀ entry ∈ rest, name < entry.1)
    (later : ∀ entry ∈ rest, tree.get? (location ++ dir.child entry.1) = some entry.2)
    : ∀ entry ∈ rest, step.tree.get? (location ++ dir.child entry.1) = some entry.2 := by
  intro entry member
  rw [← later entry member]
  refine get?_child_of_tracks project tracks fun stop stopped => ?_
  obtain ⟨under, placed, _⟩ := survey_below (project.wellFormed.at there) stopped
  refine ⟨name, placed ▸ List.prefix_append _ _, ?_⟩
  rintro rfl
  exact String.lt_irrefl _ (larger entry member)

/-- Visits to subdirectories follow their surveys. Witness: induction on the entries, since what a
visit changes is below its own subdirectory and leaves the later ones as they were.
-/
theorem visitAll_tracks {entries : List (String × Node)} {dir : DirPath} {tree : Node}
    (increasing : entries.Pairwise (·.1 < ·.1))
    (each : ∀ entry ∈ entries, Follows config faults tables location start entry.2)
    (project : Project config location tree)
    (there : ∀ entry ∈ entries, tree.get? (location ++ dir.child entry.1) = some entry.2)
    (original : ∀ entry ∈ entries, start.get? (location ++ dir.child entry.1) = some entry.2)
    : Tracks config location tree
        (visitAll config faults tables entries (config.root.under dir) dir tree)
        (areVacant config faults tables entries dir)
        (journal config faults location start (surveyAll config faults tables entries dir)) := by
  induction entries generalizing tree with
  | nil => exact .still project.wellFormed true rfl rfl
  | cons entry rest ih =>
      obtain ⟨name, node⟩ := entry
      obtain ⟨larger, tail⟩ := List.pairwise_cons.mp increasing
      have first := each _ List.mem_cons_self project (there _ List.mem_cons_self)
        (original _ List.mem_cons_self)
      have later := later_of_tracks project (there _ List.mem_cons_self) first larger
        fun other member => there other (List.mem_cons_of_mem _ member)
      rw [visitAll, areVacant, surveyAll, journal, List.flatMap_append, PathName.child_under]
      refine first.bind (Tracks.map ?_ _)
      exact ih tail (fun other member => each other (List.mem_cons_of_mem _ member))
        (project.alike first.wellFormed first.alike) later
        fun other member => original other (List.mem_cons_of_mem _ member)

/-- A visit follows the survey of the tree at the start. Witness: induction on the node; when its
subdirectories are done with, the place of its own marker is as it was.
-/
theorem visit_follows (faults : Faults) (tables : Ignore.Tables) (known : config.HasKnownMode)
    (begun : Project config location start) (node : Node)
    : Follows config faults tables location start node := by
  induction node using Node.induction with
  | file _ => exact fun project _ _ => .still project.wellFormed true rfl rfl
  | link _ => exact fun project _ _ => .still project.wellFormed true rfl rfl
  | dir entries ih =>
      intro dir tree project there original
      obtain ⟨orderly, _⟩ := Node.wellFormed_dir.mp (project.wellFormed.at there)
      cases barred : barrier? config faults tables dir with
      | some finding =>
          rw [survey, isVacant, barred, journal, List.flatMap_singleton]
          exact visit_barred project there barred
      | none =>
          have below := visitAll_tracks orderly.increasing ih project
            (fun _ => project.get?_child there) (fun _ => begun.get?_child original)
          -- What changes in the subdirectories is below them, so it is not this marker.
          have apart : ∀ changed ∈ (journal config faults location start
              (surveyAll config faults tables entries dir)).changed,
              location ++ dir ++ [config.markerName]
                ≠ location ++ changed ++ [config.markerName] := by
            intro changed change same
            obtain ⟨stop, stopped, rfl⟩ := changed_journal change
            rw [surveyAll_eq] at stopped
            obtain ⟨⟨name, child⟩, member, inside⟩ := List.mem_flatMap.mp stopped
            have wellFormed := project.wellFormed.at (project.get?_child there member)
            obtain ⟨under, placed, _⟩ := survey_below wellFormed inside
            simp [placed, DirPath.child] at same
          obtain ⟨before, silent, opened⟩ := visit_open project there faults tables barred
          have kept : (visitAll config faults tables entries (config.root.under dir) dir
              tree).tree.kindAt (location ++ dir) = some .dir :=
            below.alike.dir (Node.kindAt_eq_dir.mpr ⟨_, there⟩)
          have untouched := (below.frame _ apart).trans
            ((Node.kindAt_append there _).trans (Node.kindAt_append original _).symm)
          have judged := conclude_tracks known (project.alike below.wellFormed below.alike) begun
            kept original untouched barred
          rw [survey, barred, opened, journal, List.flatMap_append, List.flatMap_singleton]
          exact (below.bind judged).after silent rfl

end

end Walk

end DirMarkers
