import DirMarkers.Proofs.Run.Tracking

/-!
Replaying a journal that changes each marker at most once. What it leaves at a location depends on
the event about that location alone, so the order of the events does not matter.
-/

namespace DirMarkers

/-- What a change leaves at the place of its marker. -/
def Event.leaves (config : Config) : Event → Option Kind
  | .created _ => some (.file config.markerContent.toUTF8)
  | _ => none

/-- The changes that a journal tells of can be made to a tree: each of them is to a marker of its
own, in a directory that has no more than a file in its place.
-/
structure Journal.Applies (config : Config) (location : Location) (journal : Journal)
    (tree : Node) : Prop where
  named : IsEntryName config.markerName
  short : journal.changed ≠ [] → config.markerName.utf8ByteSize ≤ Tree.nameLimit
  nodup : journal.changed.Nodup
  inDir : ∀ dir ∈ journal.changed, tree.kindAt (location ++ dir) = some .dir
  free
    : ∀ dir ∈ journal.changed,
        tree.HoldsNoMoreThanFile (location ++ dir ++ [config.markerName])

section

variable {config : Config} {location : Location} {tree : Node}

/-- One change shows at the place of its marker alone. -/
theorem Event.replay_change (wellFormed : tree.WellFormed) {event : Event} {dir : DirPath}
    (change : event.changed? = some dir)
    (named : IsEntryName config.markerName)
    (short : config.markerName.utf8ByteSize ≤ Tree.nameLimit)
    (inDir : tree.kindAt (location ++ dir) = some .dir)
    (free : tree.HoldsNoMoreThanFile (location ++ dir ++ [config.markerName]))
    : (event.replay config location tree).WellFormed
      ∧ Node.AlikeBut config.markerName tree (event.replay config location tree)
      ∧ ∀ other, (event.replay config location tree).kindAt other
          = if other = location ++ dir ++ [config.markerName] then event.leaves config
            else tree.kindAt other := by
  obtain ⟨entries, there⟩ := Node.kindAt_eq_dir.mp inDir
  cases event with
  | created _ =>
      obtain rfl := Option.some.inj change
      exact ⟨wellFormed.put_file there named short _, Node.alikeBut_put_file there free _,
        Node.kindAt_put_file there free.notDir _⟩
  | removed _ =>
      obtain rfl := Option.some.inj change
      exact ⟨wellFormed.erase_entry there _, Node.alikeBut_erase there free,
        Node.kindAt_erase there free.notDir⟩
  | _ => cases change

theorem Journal.Applies.tail_of_unchanged {first : Event} {rest : Journal}
    (h : Journal.Applies config location (first :: rest) tree) (unchanged : first.changed? = none)
    : Journal.Applies config location rest tree := by
  have changed : Journal.changed (first :: rest) = Journal.changed rest :=
    List.filterMap_cons_none unchanged
  exact {
    named := h.named
    short := changed ▸ h.short
    nodup := changed ▸ h.nodup
    inDir := changed ▸ h.inDir
    free := changed ▸ h.free
  }

/-- After the first change, the others are still to be made and can be. -/
theorem Journal.Applies.tail_of_change {first : Event} {rest : Journal}
    (h : Journal.Applies config location (first :: rest) tree) (wellFormed : tree.WellFormed)
    {dir : DirPath} (change : first.changed? = some dir)
    : dir ∉ Journal.changed rest
      ∧ Journal.Applies config location rest (first.replay config location tree) := by
  have changed : Journal.changed (first :: rest) = dir :: Journal.changed rest :=
    List.filterMap_cons_some change
  have here : dir ∈ Journal.changed (first :: rest) := changed ▸ List.mem_cons_self
  have there {other : DirPath} (member : other ∈ Journal.changed rest)
      : other ∈ Journal.changed (first :: rest) :=
    changed ▸ List.mem_cons_of_mem dir member
  have short := h.short (List.ne_nil_of_mem here)
  obtain ⟨fresh, nodup⟩ := List.nodup_cons.mp (changed ▸ h.nodup)
  obtain ⟨_, alike, kinds⟩ := Event.replay_change wellFormed change h.named short
    (h.inDir dir here) (h.free dir here)
  refine ⟨fresh, h.named, fun _ => short, nodup, ?_, ?_⟩
  · exact fun other member => alike.dir (h.inDir other (there member))
  · intro other member kind found
    have apart : location ++ other ++ [config.markerName]
        ≠ location ++ dir ++ [config.markerName] := by
      intro same
      obtain rfl : other = dir := by simpa using same
      exact fresh member
    rw [kinds, if_neg apart] at found
    exact h.free other (there member) kind found

/-- Replaying leaves at each marker what its own event leaves, and the rest as it was. Witness:
induction on the journal; later events are about other markers.
-/
theorem Journal.Applies.replay {journal : Journal}
    (applies : journal.Applies config location tree) (wellFormed : tree.WellFormed)
    : (journal.replay config location tree).WellFormed
      ∧ (∀ event ∈ journal, ∀ dir, event.changed? = some dir
          → (journal.replay config location tree).kindAt (location ++ dir ++ [config.markerName])
            = event.leaves config)
      ∧ ∀ other, (∀ dir ∈ journal.changed, other ≠ location ++ dir ++ [config.markerName])
          → (journal.replay config location tree).kindAt other = tree.kindAt other := by
  induction journal generalizing tree with
  | nil => exact ⟨wellFormed, fun _ member => (nomatch member), fun _ _ => rfl⟩
  | cons first rest ih =>
      have next : Journal.replay config location (first :: rest) tree
          = Journal.replay config location rest (first.replay config location tree) := rfl
      cases change : first.changed? with
      | none =>
          have changed : Journal.changed (first :: rest) = Journal.changed rest :=
            List.filterMap_cons_none change
          obtain ⟨wellFormed, each, kept⟩ := ih (applies.tail_of_unchanged change) wellFormed
          rw [next, Event.replay_of_unchanged config location change, changed]
          refine ⟨wellFormed, fun event member dir told => ?_, kept⟩
          rcases List.mem_cons.mp member with rfl | later
          · cases told.symm.trans change
          · exact each event later dir told
      | some dir =>
          have changed : Journal.changed (first :: rest) = dir :: Journal.changed rest :=
            List.filterMap_cons_some change
          have here : dir ∈ Journal.changed (first :: rest) := changed ▸ List.mem_cons_self
          obtain ⟨stillWellFormed, _, kinds⟩ := Event.replay_change wellFormed change applies.named
            (applies.short (List.ne_nil_of_mem here)) (applies.inDir dir here)
            (applies.free dir here)
          obtain ⟨fresh, left⟩ := applies.tail_of_change wellFormed change
          obtain ⟨wellFormed, each, kept⟩ := ih left stillWellFormed
          rw [next]
          refine ⟨wellFormed, fun event member other told => ?_, fun other outside => ?_⟩
          · rcases List.mem_cons.mp member with rfl | later
            · obtain rfl := Option.some.inj (change.symm.trans told)
              have apart : ∀ other ∈ Journal.changed rest, location ++ dir ++ [config.markerName]
                  ≠ location ++ other ++ [config.markerName] := by
                intro other member same
                obtain rfl : dir = other := by simpa using same
                exact fresh member
              rw [kept _ apart, kinds, if_pos rfl]
            · exact each event later other told
          · rw [changed] at outside
            rw [kept other fun dir member => outside dir (List.mem_cons_of_mem _ member), kinds,
              if_neg (outside dir List.mem_cons_self)]

/-- Journals that tell of the same changes lead to the same tree, in whatever order they tell of
them.
-/
theorem Journal.Applies.replay_eq {left right : Journal}
    (hl : left.Applies config location tree) (hr : right.Applies config location tree)
    (wellFormed : tree.WellFormed)
    (same : ∀ event dir, event.changed? = some dir → (event ∈ left ↔ event ∈ right))
    : left.replay config location tree = right.replay config location tree := by
  obtain ⟨leftWellFormed, leftEach, leftKept⟩ := hl.replay wellFormed
  obtain ⟨rightWellFormed, rightEach, rightKept⟩ := hr.replay wellFormed
  refine leftWellFormed.ext rightWellFormed fun other => ?_
  by_cases changed : ∃ dir ∈ left.changed, other = location ++ dir ++ [config.markerName]
  · obtain ⟨dir, member, rfl⟩ := changed
    obtain ⟨event, happened, told⟩ := List.mem_filterMap.mp member
    rw [leftEach event happened dir told,
      rightEach event ((same event dir told).mp happened) dir told]
  · have outside : ∀ dir ∈ right.changed, other ≠ location ++ dir ++ [config.markerName] := by
      intro dir member placed
      obtain ⟨event, happened, told⟩ := List.mem_filterMap.mp member
      exact changed
        ⟨dir, List.mem_filterMap.mpr ⟨event, (same event dir told).mpr happened, told⟩, placed⟩
    rw [leftKept other fun dir member placed => changed ⟨dir, member, placed⟩,
      rightKept other outside]

end

end DirMarkers
