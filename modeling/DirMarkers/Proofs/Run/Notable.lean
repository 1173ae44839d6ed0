import DirMarkers.Journal
import Mathlib.Data.List.Basic

/-!
The part of a journal that a summary reads. The rest of it only traces what a run looks at.
-/

namespace DirMarkers

/-- Whether an event is more than a trace of what a run looks at. -/
def Event.isNotable : Event → Bool
  | .loading | .rulesLoaded .. | .notDescended .. | .tableLoaded .. | .walking | .entered _
  | .matched .. | .fileIgnored _ => false
  | _ => true

/-- The directory whose marker an event is about. -/
def Event.marker? : Event → Option DirPath
  | .wouldCreate dir | .wouldRemove dir | .created dir | .removed dir | .createFailed dir _
  | .removeFailed dir _ | .markerMissing dir | .markerSpare dir => some dir
  | _ => none

/-- The directory whose marker an event created. -/
def Event.created? : Event → Option DirPath
  | .created dir => some dir
  | _ => none

/-- The directory whose marker an event removed. -/
def Event.removed? : Event → Option DirPath
  | .removed dir => some dir
  | _ => none

/-- The directory whose marker an event created or removed. -/
def Event.changed? : Event → Option DirPath
  | .created dir | .removed dir => some dir
  | _ => none

theorem Event.created?_eq_some_iff {event : Event} {dir : DirPath}
    : event.created? = some dir ↔ event = .created dir := by
  cases event <;> simp [created?]

theorem Event.removed?_eq_some_iff {event : Event} {dir : DirPath}
    : event.removed? = some dir ↔ event = .removed dir := by
  cases event <;> simp [removed?]

theorem Event.marker?_of_changed? {event : Event} {dir : DirPath}
    (change : event.changed? = some dir)
    : event.marker? = some dir := by
  cases event <;> first | exact change | cases change

theorem Event.changed?_of_unmarked {event : Event} (unmarked : event.marker? = none)
    : event.changed? = none := by
  cases event <;> first | rfl | cases unmarked

/-- Only events that change a marker are in the lists of created and of removed ones. -/
theorem Event.createdMarker?_of_unchanged (marker : String) {event : Event}
    (unchanged : event.changed? = none)
    : event.createdMarker? marker = none := by
  cases event <;> first | rfl | cases unchanged

theorem Event.removedMarker?_of_unchanged (marker : String) {event : Event}
    (unchanged : event.changed? = none)
    : event.removedMarker? marker = none := by
  cases event <;> first | rfl | cases unchanged

theorem Event.mismatched?_of_unmarked {event : Event} (unmarked : event.marker? = none)
    : event.mismatched? = none := by
  cases event <;> first | rfl | cases unmarked

namespace Journal

/-- The notable events of a journal. -/
def notable (journal : Journal) : Journal :=
  journal.filter Event.isNotable

/-- The directories whose markers were created or removed. -/
def changed (journal : Journal) : List DirPath :=
  journal.filterMap Event.changed?

@[simp] theorem notable_nil : notable [] = [] := rfl

@[simp] theorem notable_cons (event : Event) (rest : Journal)
    : notable (event :: rest) = if event.isNotable then event :: notable rest else notable rest :=
  List.filter_cons

@[simp] theorem notable_append (first next : Journal)
    : notable (first ++ next) = notable first ++ notable next :=
  List.filter_append first next

@[simp] theorem changed_append (first next : Journal)
    : changed (first ++ next) = changed first ++ changed next :=
  List.filterMap_append

theorem notable_flatMap {α : Type} (items : List α) (events : α → Journal)
    (trace : ∀ item ∈ items, notable (events item) = [])
    : notable (items.flatMap events) = [] := by
  induction items with
  | nil => rfl
  | cons item rest ih =>
      rw [List.flatMap_cons, notable_append, trace item List.mem_cons_self,
        ih fun other member => trace other (List.mem_cons_of_mem item member)]
      rfl

/-- A view that passes over traces sees the notable events alone. -/
theorem filterMap_notable {α : Type} (view : Event → Option α)
    (passes : ∀ event : Event, event.isNotable = false → view event = none) (journal : Journal)
    : journal.notable.filterMap view = journal.filterMap view := by
  rw [notable, List.filterMap_filter]
  congr 1
  funext event
  split
  · rfl
  · next trace => exact (passes event (by simpa using trace)).symm

/-- A summary is one of the notable events, by inspecting the view behind each of its lists. -/
theorem summary_notable (marker : String) (journal : Journal)
    : journal.notable.summary marker = journal.summary marker := by
  have created := filterMap_notable (Event.createdMarker? marker)
    (fun event trace => by cases event <;> first | rfl | cases trace) journal
  have removed := filterMap_notable (Event.removedMarker? marker)
    (fun event trace => by cases event <;> first | rfl | cases trace) journal
  have skipped := filterMap_notable Event.skipped?
    (fun event trace => by cases event <;> first | rfl | cases trace) journal
  have errors := filterMap_notable (Event.failure? marker)
    (fun event trace => by cases event <;> first | rfl | cases trace) journal
  have mismatched := filterMap_notable Event.mismatched?
    (fun event trace => by cases event <;> first | rfl | cases trace) journal
  simp only [summary, created, removed, skipped, errors, mismatched]

/-- A view that sees one kind of event lists the directories of which this event is told. -/
theorem mem_filterMap_view {view : Event → Option DirPath} {told : DirPath → Event}
    (sees : ∀ {event dir}, view event = some dir ↔ event = told dir) {journal : Journal}
    {dir : DirPath}
    : dir ∈ journal.filterMap view ↔ told dir ∈ journal := by
  simp [List.mem_filterMap, sees]

/-- A view that spells what another view sees gives the spelled list of it. -/
theorem filterMap_spelled {view : Event → Option String} {seen : Event → Option DirPath}
    {spell : DirPath → String} (same : ∀ event, view event = (seen event).map spell)
    (journal : Journal)
    : journal.filterMap view = (journal.filterMap seen).map spell := by
  rw [List.map_filterMap]
  exact List.filterMap_congr fun event _ => same event

/-- The files that a summary has created are the markers of the directories that are told of. -/
theorem summary_created (marker : String) (journal : Journal)
    : (journal.summary marker).created
      = (journal.filterMap Event.created?).map (·.entryText marker) :=
  filterMap_spelled (fun event => by cases event <;> rfl) journal

theorem summary_removed (marker : String) (journal : Journal)
    : (journal.summary marker).removed
      = (journal.filterMap Event.removed?).map (·.entryText marker) :=
  filterMap_spelled (fun event => by cases event <;> rfl) journal

/-- No marker is created or removed if no event changes one. -/
theorem summary_of_unchanged (marker : String) {journal : Journal}
    (unchanged : journal.changed = [])
    : (journal.summary marker).created = [] ∧ (journal.summary marker).removed = [] := by
  have each := List.filterMap_eq_nil_iff.mp unchanged
  constructor
  · exact List.filterMap_eq_nil_iff.mpr fun event member =>
      event.createdMarker?_of_unchanged marker (each event member)
  · exact List.filterMap_eq_nil_iff.mpr fun event member =>
      event.removedMarker?_of_unchanged marker (each event member)

end Journal

end DirMarkers
