import DirMarkers.Proofs.Settings.Checking
import Mathlib.Data.List.Pairwise

/-!
Failures to load a configuration that are no errors of the configuration. Something stands in the
way of an error: keys that are to be listed but do not compare, a value that is to be shown but
cannot be, a scalar without a value, or a root that leads nowhere.
-/

namespace DirMarkers

open Yaml (Atom Document Obstacle Source Value)

-----------------------------------------------------------------------------------------
-- Keys that compare
-----------------------------------------------------------------------------------------

namespace Yaml.Atom

/-- The kinds of keys that compare. -/
inductive Key.Kind where
  | number
  | text
  | bytes
  | day
  | civil
  | universal
deriving DecidableEq

/-- The kind of a key; null does not even compare with itself. -/
def Key.kind? : Key → Option Kind
  | .null => none
  | .number _ | .infinity _ | .nan _ => some .number
  | .text _ => some .text
  | .bytes _ => some .bytes
  | .day _ => some .day
  | .civil _ => some .civil
  | .universal _ => some .universal

/-- Keys compare if and only if they are of one kind. -/
theorem Key.isSome_le?_iff {a b : Key}
    : (le? a b).isSome = true ↔ ∃ kind, a.kind? = some kind ∧ b.kind? = some kind := by
  cases a <;> cases b <;> simp [le?, kind?]

theorem comparable_iff {a b : Atom}
    : comparable a b = true ↔ ∃ kind, a.key.kind? = some kind ∧ b.key.kind? = some kind :=
  Key.isSome_le?_iff

theorem comparable_trans {a b c : Atom} (first : comparable a b = true)
    (second : comparable a c = true)
    : comparable b c = true := by
  obtain ⟨kind, same, left⟩ := comparable_iff.mp first
  obtain ⟨other, again, right⟩ := comparable_iff.mp second
  cases same.symm.trans again
  exact comparable_iff.mpr ⟨kind, left, right⟩

/-- Keys sort unless two of them do not compare: it is enough to compare all with the first one. -/
theorem sortKeys?_eq_none_iff {keys : List Atom}
    : sortKeys? keys = none ↔ ¬ keys.Pairwise (comparable · · = true) := by
  match keys with
  | [] => simp [sortKeys?]
  | [key] => simp [sortKeys?]
  | first :: second :: rest =>
    simp only [sortKeys?]
    split
    · next alike =>
      have each := List.all_eq_true.mp alike
      refine iff_of_false (nofun) (not_not.mpr (List.pairwise_cons.mpr ⟨each, ?_⟩))
      exact List.pairwise_of_forall_mem_list
        fun key member other also => comparable_trans (each key member) (each other also)
    · next mixed =>
      refine iff_of_true rfl fun alike => mixed (List.all_eq_true.mpr ?_)
      exact (List.pairwise_cons.mp alike).1

theorem perm_of_sortKeys? {keys sorted : List Atom} (h : sortKeys? keys = some sorted)
    : sorted.Perm keys := by
  match keys with
  | [] | [key] =>
    cases h
    exact .refl _
  | first :: second :: rest =>
    simp only [sortKeys?] at h
    split at h
    · cases h
      exact List.mergeSort_perm _ _
    · cases h

end Yaml.Atom

-----------------------------------------------------------------------------------------
-- What a settings file says
-----------------------------------------------------------------------------------------

/-- The error of the configuration that a failure is, if it is one. -/
def LoadFailure.error? : LoadFailure → Option ConfigError
  | .config error => some error
  | _ => none

/-- The settings that a document holds, if it is a mapping; one that is null is as good as an empty
one, and so is one whose collection is not there.
-/
def Yaml.Document.settings? (document : Document) : Option FileSettings :=
  match document.root with
  | .atom .null => some {}
  | .atom _ => none
  | .collection number =>
    match document.store[number]? with
    | none => some {}
    | some (.mapping entries) => some ⟨entries, document.store⟩
    | some _ => none

namespace SettingsFile

/-- What a settings file says: the document that its bytes spell, or null if it is not there. -/
inductive Documents (tree : Node) (file : PathName) : Document → Prop
  | absent {errno : Errno}
    (missing : Tree.call file.text (Tree.stat tree [] file.parts) = .error errno)
    : Documents tree file ⟨.atom .null, #[]⟩
  | present {content : ByteArray} {document : Document}
    (bytes : Tree.call file.text (Tree.read tree [] file.parts) = .ok content)
    (spelled : Document.ofSource (Source.ofBytes content) = .ok document)
    : Documents tree file document

/-- What the listing of unknown keys can end with: they do not compare, or one cannot be shown. -/
inductive Unlisted (settings : FileSettings) : LoadFailure → Prop
  | mixed (mixed : ¬ (Settings.unknownKeys settings).Pairwise (Atom.comparable · · = true))
    : Unlisted settings .incomparableKeys
  | long (alike : (Settings.unknownKeys settings).Pairwise (Atom.comparable · · = true))
    {key : Atom} (unknown : key ∈ Settings.unknownKeys settings) (long : key.isShown = false)
    : Unlisted settings (.unshown .digits)

/-- What the bytes of a settings file can end the loading with, other than an error of the
configuration: a scalar has no value, nodes are too deep inside each other, or unknown keys cannot
be listed.
-/
inductive Trips (content : ByteArray) : LoadFailure → Prop
  | scalar {fault : Yaml.ScalarFault}
    (faulty : Document.ofSource (Source.ofBytes content) = .error (.scalar fault))
    : Trips content (.scalar fault)
  | tooDeep (faulty : Document.ofSource (Source.ofBytes content) = .error .tooDeep)
    : Trips content .tooDeep
  | keys {document : Document} {settings : FileSettings} {failure : LoadFailure}
    (spelled : Document.ofSource (Source.ofBytes content) = .ok document)
    (mapping : document.settings? = some settings) (unlisted : Unlisted settings failure)
    : Trips content failure

theorem Trips.error?_eq_none {content : ByteArray} {failure : LoadFailure}
    (h : Trips content failure)
    : failure.error? = none := by
  cases h with
  | scalar | tooDeep => rfl
  | keys _ _ unlisted => cases unlisted <;> rfl

theorem checkKeys_eq_ok_iff {settings checked : FileSettings}
    : checkKeys settings = .ok checked
      ↔ Settings.unknownKeys settings = [] ∧ settings = checked := by
  rw [checkKeys]
  split
  · next known => simp [known]
  · next unknown =>
    refine iff_of_false (fun passed => ?_) (fun h => unknown h.1)
    split at passed
    · split at passed <;> cases passed
    · cases passed

section

variable {content : ByteArray} {document : Document}
  (spelled : Document.ofSource (Source.ofBytes content) = .ok document)

include spelled

/-- A document that is no mapping is an error of the configuration. -/
theorem parse_of_noMapping (other : document.settings? = none) (file : PathName)
    : ∃ error, parse file content = .error (.config error) := by
  unfold parse
  rw [spelled]
  obtain ⟨root, store⟩ := document
  cases root with
  | atom a =>
      cases a with
      | null => cases other
      | _ => exact ⟨_, rfl⟩
  | collection number =>
      simp only [Document.settings?] at other ⊢
      split at other
      · cases other
      · cases other
      · next collection different found =>
        rw [found]
        cases collection <;> first | exact ⟨_, rfl⟩ | exact absurd rfl (different _)

/-- A document that is a mapping gives its entries, if all keys are those of settings. -/
theorem parse_of_mapping {settings : FileSettings} (mapping : document.settings? = some settings)
    (file : PathName)
    : (parse file content).map (Option.getD · {}) = checkKeys settings := by
  unfold parse
  rw [spelled]
  obtain ⟨root, store⟩ := document
  cases root with
  | atom a =>
      cases a with
      | null =>
          cases mapping
          rfl
      | _ => cases mapping
  | collection number =>
      simp only [Document.settings?] at mapping ⊢
      split at mapping
      · next missing =>
        cases mapping
        rw [missing]
        rfl
      · next entries found =>
        cases mapping
        rw [found]
        dsimp only
        cases checkKeys ⟨entries, store⟩ <;> rfl
      · cases mapping

end

section

variable {failure : LoadFailure} (other : failure.error? = none)

include other

/-- Unknown keys are an error of the configuration unless they cannot be listed. -/
theorem checkKeys_eq_error_iff {settings : FileSettings}
    : checkKeys settings = .error failure ↔ Unlisted settings failure := by
  rw [checkKeys]
  split
  · next known =>
    refine iff_of_false nofun fun unlisted => ?_
    cases unlisted with
    | mixed mixed => exact mixed (known ▸ List.Pairwise.nil)
    | long _ unknown => simp [known] at unknown
  · split
    · next keys sorted =>
      have alike : (Settings.unknownKeys settings).Pairwise (Atom.comparable · · = true) := by
        by_contra mixed
        cases sorted.symm.trans (Atom.sortKeys?_eq_none_iff.mpr mixed)
      have same {key : Atom} := (Atom.perm_of_sortKeys? sorted).mem_iff (a := key)
      split
      · next shown =>
        refine iff_of_false (fun failed => ?_) fun unlisted => ?_
        · cases failed
          cases other
        · cases unlisted with
          | mixed mixed => exact mixed alike
          | long _ unknown long =>
              cases long.symm.trans (List.all_eq_true.mp shown _ (same.mpr unknown))
      · next hidden =>
        simp only [List.all_eq_true, not_forall, Bool.not_eq_true] at hidden
        obtain ⟨key, member, long⟩ := hidden
        constructor
        · intro failed
          cases failed
          exact .long alike (same.mp member) long
        · intro unlisted
          cases unlisted with
          | mixed mixed => exact absurd alike mixed
          | long => rfl
    · next unsorted =>
      have mixed := Atom.sortKeys?_eq_none_iff.mp unsorted
      constructor
      · intro failed
        cases failed
        exact .mixed mixed
      · intro unlisted
        cases unlisted with
        | mixed => rfl
        | long alike => exact absurd alike mixed

/-- The bytes of a settings file are an error of the configuration unless they trip the loading. -/
theorem parse_eq_error_iff {file : PathName} {content : ByteArray}
    : parse file content = .error failure ↔ Trips content failure := by
  cases spelled : Document.ofSource (Source.ofBytes content) with
  | error error =>
      constructor
      · intro failed
        unfold parse at failed
        rw [spelled] at failed
        cases error with
        | scalar fault =>
            cases failed
            exact .scalar spelled
        | tooDeep =>
            cases failed
            exact .tooDeep spelled
        | encoding fault | malformed cause =>
            cases failed
            cases other
      · intro trips
        unfold parse
        cases trips with
        | scalar faulty | tooDeep faulty => rw [faulty]
        | keys also => cases spelled.symm.trans also
  | ok document =>
      have keys : Trips content failure
          ↔ ∃ settings, document.settings? = some settings ∧ Unlisted settings failure := by
        constructor
        · intro trips
          cases trips with
          | scalar faulty | tooDeep faulty => cases spelled.symm.trans faulty
          | keys also mapping unlisted =>
              cases spelled.symm.trans also
              exact ⟨_, mapping, unlisted⟩
        · rintro ⟨settings, mapping, unlisted⟩
          exact .keys spelled mapping unlisted
      rw [keys]
      cases mapping : document.settings? with
      | none =>
          obtain ⟨error, failed⟩ := parse_of_noMapping spelled mapping file
          refine iff_of_false (fun same => ?_) (by simp)
          cases failed.symm.trans same
          cases other
      | some settings =>
          rw [← map_eq_error_iff, parse_of_mapping spelled mapping file,
            checkKeys_eq_error_iff other]
          simp

end

section

variable {tree : Node} {file : PathName}

/-- A settings file whose bytes can be read is parsed, since it is then there. -/
theorem read_of_call {content : ByteArray}
    (bytes : Tree.call file.text (Tree.read tree [] file.parts) = .ok content)
    : read tree file = parse file content := by
  have there : ∃ found, Tree.call file.text (Tree.stat tree [] file.parts) = .ok found := by
    rw [Tree.call] at bytes ⊢
    split at bytes
    · cases bytes
    · next short =>
      rw [if_neg short]
      rw [Tree.read] at bytes
      split at bytes
      · next found => exact ⟨_, found⟩
      · cases bytes
      · cases bytes
  obtain ⟨found, there⟩ := there
  rw [read, there]
  dsimp only
  rw [bytes]

/-- A settings file whose bytes cannot be read trips nothing, and holds no settings. -/
theorem read_of_refused {errno : Errno}
    (refused : Tree.call file.text (Tree.read tree [] file.parts) = .error errno)
    : read tree file = .ok none
      ∨ ∃ error, read tree file = .error (.config error) := by
  rw [read]
  split
  · exact .inl rfl
  · rw [refused]
    exact .inr ⟨_, rfl⟩

theorem read_eq_error_iff {failure : LoadFailure} (other : failure.error? = none)
    : read tree file = .error failure
      ↔ ∃ content, Tree.call file.text (Tree.read tree [] file.parts) = .ok content
        ∧ Trips content failure := by
  cases bytes : Tree.call file.text (Tree.read tree [] file.parts) with
  | error errno =>
      refine iff_of_false (fun failed => ?_) (fun ⟨_, same, _⟩ => nomatch same)
      rcases read_of_refused bytes with nothing | ⟨error, refused⟩
      · cases nothing.symm.trans failed
      · cases refused.symm.trans failed
        cases other
  | ok content =>
      rw [read_of_call bytes, parse_eq_error_iff other]
      simp

variable {document : Document}

/-- A document that is no mapping is an error of the configuration. -/
theorem read_of_noMapping (documents : Documents tree file document)
    (other : document.settings? = none)
    : ∃ error, read tree file = .error (.config error) := by
  cases documents with
  | absent missing => cases other
  | present bytes spelled =>
      rw [read_of_call bytes]
      exact parse_of_noMapping spelled other file

/-- A document that is a mapping gives its entries, if all keys are those of settings. -/
theorem read_of_mapping (documents : Documents tree file document) {settings : FileSettings}
    (mapping : document.settings? = some settings)
    : (read tree file).map (Option.getD · {}) = checkKeys settings := by
  cases documents with
  | absent missing =>
      cases mapping
      rw [read, missing]
      rfl
  | present bytes spelled =>
      rw [read_of_call bytes]
      exact parse_of_mapping spelled mapping file

/-- A settings file that can be read spells a document. -/
theorem exists_documents {settings? : Option FileSettings}
    (found : read tree file = .ok settings?)
    : ∃ document, Documents tree file document := by
  cases bytes : Tree.call file.text (Tree.read tree [] file.parts) with
  | error errno =>
      rw [read] at found
      split at found
      · next missing => exact ⟨_, .absent missing⟩
      · rw [bytes] at found
        cases found
  | ok content =>
      rw [read_of_call bytes] at found
      cases spelled : Document.ofSource (Source.ofBytes content) with
      | ok document => exact ⟨document, .present bytes spelled⟩
      | error error =>
          unfold parse at found
          rw [spelled] at found
          cases error <;> cases found

/-- Settings are read from a file if and only if it says them in a document with known keys. -/
theorem read_eq_ok_iff {settings : FileSettings}
    : (read tree file).map (Option.getD · {}) = .ok settings
      ↔ ∃ document, Documents tree file document ∧ document.settings? = some settings
        ∧ Settings.unknownKeys settings = [] := by
  constructor
  · intro found
    obtain ⟨document, documents⟩ : ∃ document, Documents tree file document := by
      cases result : read tree file with
      | error failure =>
          rw [result] at found
          cases found
      | ok settings? => exact exists_documents result
    cases mapping : document.settings? with
    | none =>
        obtain ⟨error, failed⟩ := read_of_noMapping documents mapping
        rw [failed] at found
        cases found
    | some others =>
        rw [read_of_mapping documents mapping, checkKeys_eq_ok_iff] at found
        obtain ⟨known, rfl⟩ := found
        exact ⟨document, documents, mapping, known⟩
  · rintro ⟨document, documents, mapping, known⟩
    rw [read_of_mapping documents mapping]
    exact checkKeys_eq_ok_iff.mpr ⟨known, rfl⟩

end

end SettingsFile

-----------------------------------------------------------------------------------------
-- What is no error of the configuration
-----------------------------------------------------------------------------------------

namespace SettingsFile

/-- The settings file of a project is there and holds some bytes. -/
def Bears (tree : Node) (here : Location) (root : String) (content : ByteArray) : Prop :=
  ∃ path, rootOf tree here root = .ok path
    ∧ Tree.call (path.child fileName).text (Tree.read tree [] (path.child fileName).parts)
      = .ok content

/-- What the loading of a configuration can end with, other than an error of the configuration: the
root leads nowhere, the settings file trips it, or a value that is to be reported cannot be shown,
be it of the file or of the command line. Which value is reported depends on the order of the
checks.
-/
inductive Escapes (tree : Node) (here : Location) (root : String) (overrides : Overrides)
    (order : CheckOrder)
    : LoadFailure → Prop
  | nul (holds : holdsNul root = true) : Escapes tree here root overrides order .nulInPath
  | circle (free : holdsNul root = false)
    (circular : Tree.call (Tree.canonical tree here root).text
      (Tree.stat tree [] (Tree.canonical tree here root).parts) = .error .linkLoop)
    : Escapes tree here root overrides order (.linkLoop (Tree.canonical tree here root))
  | file {content : ByteArray} {failure : LoadFailure} (bears : Bears tree here root content)
    (trips : Trips content failure)
    : Escapes tree here root overrides order failure
  | value {path : PathName} {document : Document} {settings : FileSettings}
    {obstacle : Obstacle} (found : rootOf tree here root = .ok path)
    (documents : Documents tree (path.child fileName) document)
    (mapping : document.settings? = some settings) (known : Settings.unknownKeys settings = [])
    (named : Settings.unknownNames overrides = [])
    (obstructed : Settings.Obstructed (Settings.merged settings overrides) obstacle order.settings)
    : Escapes tree here root overrides order (.unshown obstacle)

/-- The root of a project cannot be told for two reasons. -/
theorem rootOf_eq_error_iff {tree : Node} {here : Location} {root : String}
    {failure : LoadFailure}
    : rootOf tree here root = .error failure
      ↔ holdsNul root = true ∧ failure = .nulInPath
        ∨ holdsNul root = false
          ∧ Tree.call (Tree.canonical tree here root).text
              (Tree.stat tree [] (Tree.canonical tree here root).parts) = .error .linkLoop
          ∧ failure = .linkLoop (Tree.canonical tree here root) := by
  rw [rootOf]
  split
  · next holds => simp [holds, eq_comm]
  · next free =>
    dsimp only
    split
    · next circular => simp [free, circular, eq_comm]
    · next straight =>
      refine iff_of_false nofun ?_
      rintro (⟨holds, _⟩ | ⟨_, circular, _⟩)
      · exact free holds
      · exact straight circular

section

variable {tree : Node} {here : Location} {root : String} {path : PathName}
  {overrides : Overrides} {order : CheckOrder}

/-- If the root cannot be told, this is all that escapes. -/
theorem escapes_iff_of_lost {trip failure : LoadFailure}
    (lost : rootOf tree here root = .error trip)
    : Escapes tree here root overrides order failure ↔ trip = failure := by
  constructor
  · intro escapes
    cases escapes with
    | nul holds =>
        exact Except.error.inj
          (lost.symm.trans (rootOf_eq_error_iff.mpr (.inl ⟨holds, rfl⟩)))
    | circle free circular =>
        exact Except.error.inj
          (lost.symm.trans (rootOf_eq_error_iff.mpr (.inr ⟨free, circular, rfl⟩)))
    | file bears =>
        obtain ⟨path, there, _⟩ := bears
        cases lost.symm.trans there
    | value there => cases lost.symm.trans there
  · rintro rfl
    rcases rootOf_eq_error_iff.mp lost with ⟨holds, rfl⟩ | ⟨free, circular, rfl⟩
    · exact .nul holds
    · exact .circle free circular

/-- Once the root is told, what is built is what the file says under the command line. -/
theorem load_of_root (found : rootOf tree here root = .ok path)
    : (load tree here root overrides order).1 = (do
        let settings ← (read tree (path.child fileName)).map (Option.getD · {})
        (build path settings overrides order).1) := by
  rw [load, found]
  dsimp only
  cases read tree (path.child fileName) with
  | error failure => rfl
  | ok settings? => cases settings? <;> rfl

variable {failure : LoadFailure} (other : failure.error? = none)

include other

/-- Settings that make no configuration are an error of it unless a value cannot be shown. -/
theorem build_eq_error_iff {file : FileSettings}
    : (build path file overrides order).1 = .error failure
      ↔ Settings.unknownNames overrides = []
        ∧ ∃ obstacle, failure = .unshown obstacle
          ∧ Settings.Obstructed (Settings.merged file overrides) obstacle order.settings := by
  simp only [← @Settings.config_eq_unshown_iff order path]
  rw [build]
  split
  · next named =>
    rw [and_iff_right named]
    dsimp only
    cases made : Settings.config order path (Settings.merged file overrides) with
    | ok config => simp
    | error error =>
        cases error with
        | unshown obstacle => simp [failureOf, eq_comm]
        | _ =>
            refine iff_of_false (fun failed => ?_) (by simp)
            cases failed
            cases other
  · next unknown =>
    refine iff_of_false (fun failed => ?_) (fun possible => unknown possible.1)
    cases failed
    cases other

/-- Loading a configuration ends with another failure than an error of it exactly where that failure
escapes. Witness: each step of the loading fails for its own reasons only.
-/
theorem load_eq_error_iff
    : (load tree here root overrides order).1 = .error failure
      ↔ Escapes tree here root overrides order failure := by
  cases found : rootOf tree here root with
  | error trip => rw [escapes_iff_of_lost found, load, found, Except.error.injEq]
  | ok path =>
      have bears {content : ByteArray}
          : Bears tree here root content
            ↔ Tree.call (path.child fileName).text (Tree.read tree [] (path.child fileName).parts)
              = .ok content := by
        rw [Bears, found]
        simp
      rw [load_of_root found, bind_eq_error_iff, map_eq_error_iff, read_eq_error_iff other]
      simp only [read_eq_ok_iff, build_eq_error_iff other]
      constructor
      · rintro (⟨content, bytes, trips⟩
          | ⟨settings, ⟨document, documents, mapping, known⟩, named, obstacle, rfl, obstructed⟩)
        · exact .file (bears.mpr bytes) trips
        · exact .value found documents mapping known named obstructed
      · intro escapes
        cases escapes with
        | nul holds => cases found.symm.trans (rootOf_eq_error_iff.mpr (.inl ⟨holds, rfl⟩))
        | circle free circular =>
            cases found.symm.trans (rootOf_eq_error_iff.mpr (.inr ⟨free, circular, rfl⟩))
        | file holds trips => exact .inl ⟨_, bears.mp holds, trips⟩
        | value there documents mapping known named obstructed =>
            cases found.symm.trans there
            exact .inr ⟨_, ⟨_, documents, mapping, known⟩, named, _, rfl, obstructed⟩

omit other

theorem Escapes.error?_eq_none (h : Escapes tree here root overrides order failure)
    : failure.error? = none := by
  cases h with
  | file _ trips => exact trips.error?_eq_none
  | _ => rfl

/-- If nothing escapes, a configuration is loaded or there is an error of it. -/
theorem load_clear (clear : ∀ failure, ¬ Escapes tree here root overrides order failure)
    : (∃ config, (load tree here root overrides order).1 = .ok config)
      ∨ ∃ error, (load tree here root overrides order).1 = .error (.config error) := by
  cases loaded : (load tree here root overrides order).1 with
  | ok config => exact .inl ⟨config, rfl⟩
  | error failure =>
      cases failure with
      | config error => exact .inr ⟨error, rfl⟩
      | _ => exact absurd ((load_eq_error_iff rfl).mp loaded) (clear _)

end

end SettingsFile

end DirMarkers
