import DirMarkers.Proofs.Json.Reading
import DirMarkers.Proofs.Run.Project
import DirMarkers.Proofs.Tree.Skeleton
import DirMarkers.Report

/-!
Reports that are read back. Whatever characters the paths and errors of a run hold, the report of
the run is one JSON document, which says what the summary does.
-/

namespace DirMarkers.Report

open Json (Datum)

/-- A list of texts, as it is read. -/
def strings (items : List String) : Datum :=
  .array (items.map .string)

/-- How many items a list has, as it is read. -/
def size (items : List String) : Datum :=
  .number items.length 0

/-- A document says what a summary and the configuration of its run do. -/
structure Records (config : Config) (summary : Summary) (document : Datum) : Prop where
  details
    : document.field? "details" = some (.object [
        ("created", strings summary.created),
        ("removed", strings summary.removed),
        ("skipped", strings summary.skipped),
        ("errors", strings summary.errors),
        ("mismatched", strings summary.mismatched)])
  counts
    : document.field? "summary" = some (.object [
        ("created", size summary.created),
        ("removed", size summary.removed),
        ("skipped", size summary.skipped),
        ("errors", size summary.errors)])
  settings
    : document.field? "config" = some (.object [
        ("root", .string config.root.text),
        ("dryRun", .bool config.dryRun),
        ("clean", .bool (config.mode = .clean)),
        ("check", .bool (config.mode = .check)),
        ("gitkeepName", .string config.markerName)])

theorem datum_texts (items : List String) : Json.datum (texts items) = strings items := by
  rw [texts, Json.datum, Json.itemData_eq, List.map_map]
  rfl

/-- The document that a report is says what its summary does. -/
theorem datum_records (timestamp : String) (config : Config) (summary : Summary)
    : Records config summary (Json.datum (json timestamp config summary)) where
  details := by
    simp only [← datum_texts]
    rfl
  counts := rfl
  settings := rfl

/-- A report that is saved lies in the place that its path leads to. -/
theorem get?_of_save {tree saved : Node} {here : Location} {path content : String}
    (done : save tree here path content = .ok (.ok saved))
    : ∃ location,
        (Tree.resolve tree .fill (Tree.startOf here path) (Tree.steps path)).place = .ok location
        ∧ saved.get? location = some (.file content.toUTF8) := by
  rw [save] at done
  split at done
  · cases done
  · rw [Tree.call, Tree.write] at done
    by_cases long : Tree.isTooLong path = true
    · rw [if_pos long] at done
      cases done
    rw [if_neg long] at done
    cases placed : (Tree.resolve tree .fill (Tree.startOf here path) (Tree.steps path)).place with
    | error errno =>
        rw [placed] at done
        cases done
    | ok location =>
        rw [placed] at done
        cases done
        have sound := Tree.resolveWithin_isSound tree .fill Tree.linkLimit
          (Tree.startOf here path) (Tree.steps path)
        obtain ⟨_, kinds⟩ := Node.kindAt_put_place sound placed content.toUTF8
        refine ⟨location, rfl, Node.kindAt_eq_file.mp ?_⟩
        rw [kinds, if_pos rfl]

/-- A report can be read back: it is one JSON document, which says what the summary does, and where
it is saved there are the bytes of its text.
-/
theorem reads_back (timestamp : String) (config : Config) (summary : Summary)
    : (∃ document, Json.read (text timestamp config summary) = some document
        ∧ Records config summary document)
      ∧ ∀ {tree saved : Node} {here : Location} {path : String},
        save tree here path (text timestamp config summary) = .ok (.ok saved)
        → ∃ location content,
          (Tree.resolve tree .fill (Tree.startOf here path) (Tree.steps path)).place = .ok location
          ∧ saved.get? location = some (.file content)
          ∧ Text.Utf8.decode content = .ok (text timestamp config summary) := by
  constructor
  · exact ⟨_, Json.read_text _, datum_records timestamp config summary⟩
  · intro tree saved here path done
    obtain ⟨location, placed, there⟩ := get?_of_save done
    exact ⟨location, _, placed, there, Text.Utf8.decode_toUTF8 _⟩

/-- A failure that is told with a quote, a control character and an astral one. -/
def oddSummary : Summary where
  errors := ["\"\x01😀"]

/-- A report that tells of such a failure is saved in the small project and read back. -/
theorem reads_back_odd
    : (∃ document, Json.read (text "now" smallConfig oddSummary) = some document
        ∧ document.field? "summary" = some (.object [("created", .number 0 0),
          ("removed", .number 0 0), ("skipped", .number 0 0), ("errors", .number 1 0)]))
      ∧ ∃ saved location content,
        save smallTree ["p"] "report.json" (text "now" smallConfig oddSummary) = .ok (.ok saved)
        ∧ saved.get? location = some (.file content)
        ∧ Text.Utf8.decode content = .ok (text "now" smallConfig oddSummary) := by
  obtain ⟨⟨document, read, records⟩, stored⟩ := reads_back "now" smallConfig oddSummary
  refine ⟨⟨document, read, records.counts⟩, ?_⟩
  obtain ⟨location, content, _, there, decoded⟩ := @stored smallTree _ ["p"] "report.json" rfl
  exact ⟨_, location, content, rfl, there, decoded⟩

end DirMarkers.Report
