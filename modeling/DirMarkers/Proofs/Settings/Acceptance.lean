import DirMarkers.Proofs.Settings.Escaping
import DirMarkers.Proofs.Settings.Merging

/-!
Which settings make a configuration. The value that counts of a setting is from the command line,
else from the file, else the default; a configuration is loaded if and only if all keys and names
are those of settings and each value that counts is of its kind, and it shows exactly these values.
-/

namespace DirMarkers

open Yaml (Atom Document Obstacle Source Value)

-----------------------------------------------------------------------------------------
-- Values that count
-----------------------------------------------------------------------------------------

namespace Settings

/-- The command line says nothing about a setting: it leaves it out, or names it with null. -/
def IsSilent (overrides : Overrides) (setting : Setting) : Prop :=
  ∀ value, overrides.lookup setting.name = some value → value = .null

/-- The value that counts of a setting: what the command line says, else what the file says even if
that is null, else the default.
-/
inductive Counts (file : FileSettings) (overrides : Overrides) (setting : Setting) : Value → Prop
  | override {value : Value} (said : overrides.lookup setting.name = some value)
    (given : value ≠ .null)
    : Counts file overrides setting value
  | file {value : Value} (silent : IsSilent overrides setting) (tells : Says file setting value)
    : Counts file overrides setting value
  | default (silent : IsSilent overrides setting) (absent : fileValue? file setting = none)
    : Counts file overrides setting setting.default

theorem isGiven_iff {value : Value} : isGiven value = true ↔ value ≠ .null := by
  rw [isGiven.eq_def]
  split
  · simp
  · next other => simpa using other

theorem override?_eq_none_iff {overrides : Overrides} {setting : Setting}
    : override? overrides setting = none ↔ IsSilent overrides setting := by
  simp [override?, IsSilent, Option.filter_eq_none_iff, isGiven_iff]

/-- Settings are merged by their layers. -/
theorem counts_of_merged {file : FileSettings} {overrides : Overrides} {setting : Setting}
    {value : Value} (same : merged file overrides setting = .ok value)
    : Counts file overrides setting value := by
  rw [merged] at same
  cases own : override? overrides setting with
  | some other =>
      rw [own] at same
      cases Value.eq_of_shown same
      obtain ⟨said, given⟩ := Option.filter_eq_some_iff.mp own
      exact .override said (isGiven_iff.mp given)
  | none =>
      have silent := override?_eq_none_iff.mp own
      rw [own] at same
      cases written : fileValue? file setting with
      | none =>
          rw [written] at same
          cases same
          exact .default silent written
      | some result =>
          rw [written] at same
          exact .file silent (written.trans (congrArg some same))

/-- What counts by the layers is merged if it is of the kind of its setting. -/
theorem merged_of_counts {file : FileSettings} {overrides : Overrides} {setting : Setting}
    {value : Value} (counts : Counts file overrides setting value) (takes : setting.Takes value)
    : merged file overrides setting = .ok value := by
  cases counts with
  | override said given => exact merged_of_override said (isGiven_iff.mpr given) takes.shown file
  | file silent tells =>
      rw [merged, override?_eq_none_iff.mpr silent]
      exact congrArg (Option.getD · _) tells
  | default silent absent =>
      rw [merged, override?_eq_none_iff.mpr silent, absent]
      rfl

/-- Settings that are the same wherever the command line is silent are merged to the same values. -/
theorem merged_congr {file other : FileSettings} {overrides : Overrides}
    (same : ∀ setting, IsSilent overrides setting
      → fileValue? other setting = fileValue? file setting)
    : merged other overrides = merged file overrides := by
  funext setting
  rw [merged, merged]
  cases own : override? overrides setting with
  | some value => rfl
  | none => rw [same setting (override?_eq_none_iff.mp own)]

-----------------------------------------------------------------------------------------
-- Configurations
-----------------------------------------------------------------------------------------

/-- Each setting has a value of its kind, where `counts` tells the values that count. -/
structure Accepted (counts : Setting → Value → Prop) : Prop where
  bools
    : ∀ setting ∈ [Setting.dryRun, .verbose, .clean, .check, .respectGitkeepIgnore],
        ∃ b, counts setting (.bool b)
  content : ∃ text, counts .content (.string text)
  report : counts .reportFile .null ∨ ∃ text, counts .reportFile (.string text)
  dirs : ∃ list names, counts .excludeDirs list ∧ Lists list names
  name : ∃ name, counts .gitkeepName (.string name) ∧ IsPlainName name

/-- A configuration shows the values that count, and the root of its project. -/
structure Shows (root : PathName) (counts : Setting → Value → Prop) (config : Config) : Prop where
  root : config.root = root
  dryRun : counts .dryRun (.bool config.dryRun)
  verbose : counts .verbose (.bool config.verbose)
  respects : counts .respectGitkeepIgnore (.bool config.respectMarkerIgnore)
  content : counts .content (.string config.markerContent)
  name : counts .gitkeepName (.string config.markerName)
  report : counts .reportFile (textOrNull config.reportFile)
  /-- The directories to be excluded are a set. -/
  dirs
    : ∃ list names, counts .excludeDirs list ∧ Lists list names
      ∧ config.excludeDirs.Nodup ∧ ∀ name, name ∈ config.excludeDirs ↔ name ∈ names
  mode
    : ∃ clean check, counts .clean (.bool clean) ∧ counts .check (.bool check)
      ∧ config.mode = if clean then .clean else if check then .check else .normal

section

variable {counts others : Setting → Value → Prop}

/-- Values that are of the right kinds may be told in another way. -/
theorem Accepted.imp (h : Accepted counts)
    (same : ∀ setting value, setting.Takes value → counts setting value → others setting value)
    : Accepted others where
  bools := by
    intro setting member
    obtain ⟨b, is⟩ := h.bools setting member
    refine ⟨b, same _ _ ?_ is⟩
    simp only [List.mem_cons, List.not_mem_nil, or_false] at member
    rcases member with rfl | rfl | rfl | rfl | rfl <;> exact ⟨b, rfl⟩
  content := by
    obtain ⟨text, is⟩ := h.content
    exact ⟨text, same _ _ ⟨text, rfl⟩ is⟩
  report := by
    rcases h.report with null | ⟨text, is⟩
    · exact .inl (same _ _ ⟨none, rfl⟩ null)
    · exact .inr ⟨text, same _ _ ⟨some text, rfl⟩ is⟩
  dirs := by
    obtain ⟨list, names, is, lists⟩ := h.dirs
    exact ⟨list, names, same _ _ ⟨names, lists⟩ is, lists⟩
  name := by
    obtain ⟨name, is, plain⟩ := h.name
    exact ⟨name, same _ _ ⟨name, rfl⟩ is, plain⟩

theorem Shows.imp {root : PathName} {config : Config} (h : Shows root counts config)
    (same : ∀ setting value, counts setting value → others setting value)
    : Shows root others config where
  root := h.root
  dryRun := same _ _ h.dryRun
  verbose := same _ _ h.verbose
  respects := same _ _ h.respects
  content := same _ _ h.content
  name := same _ _ h.name
  report := same _ _ h.report
  dirs := by
    obtain ⟨list, names, is, lists, unique, members⟩ := h.dirs
    exact ⟨list, names, same _ _ is, lists, unique, members⟩
  mode := by
    obtain ⟨clean, check, isClean, isCheck, mode⟩ := h.mode
    exact ⟨clean, check, same _ _ isClean, same _ _ isCheck, mode⟩

end

theorem exists_config_iff {order : CheckOrder} {root : PathName}
    {value : Setting → Except Obstacle Value}
    : (∃ config, Settings.config order root value = .ok config)
      ↔ Accepted fun setting shown => value setting = .ok shown := by
  simp only [config_eq_ok_iff, compose_eq_ok_iff]
  constructor
  · rintro ⟨_, dryRun, isDryRun, verbose, isVerbose, clean, isClean, check, isCheck, respects,
      isRespects, content, isContent, name, isName, report, isReport, names, ⟨list, isList, lists⟩,
      plain, rfl⟩
    refine {
      bools := ?_
      content := ⟨content, isContent⟩
      report := ?_
      dirs := ⟨list, names, isList, lists⟩
      name := ⟨name, isName, plain⟩
    }
    · simp [isDryRun, isVerbose, isClean, isCheck, isRespects]
    · cases report with
      | none => exact .inl isReport
      | some text => exact .inr ⟨text, isReport⟩
  · rintro ⟨bools, ⟨content, isContent⟩, report, ⟨list, names, isList, lists⟩, name, isName, plain⟩
    simp only [List.forall_mem_cons] at bools
    obtain ⟨⟨dryRun, isDryRun⟩, ⟨verbose, isVerbose⟩, ⟨clean, isClean⟩, ⟨check, isCheck⟩,
      ⟨respects, isRespects⟩, _⟩ := bools
    have isReport : ∃ text?, value .reportFile = .ok (textOrNull text?) := by
      rcases report with null | ⟨text, isText⟩
      · exact ⟨none, null⟩
      · exact ⟨some text, isText⟩
    obtain ⟨report, isReport⟩ := isReport
    exact ⟨_, dryRun, isDryRun, verbose, isVerbose, clean, isClean, check, isCheck, respects,
      isRespects, content, isContent, name, isName, report, isReport, names, ⟨list, isList, lists⟩,
      plain, rfl⟩

/-- No name is left twice, by induction on how many there are. -/
theorem nodup_eraseDups (names : List String) : names.eraseDups.Nodup := by
  match names with
  | [] => exact List.nodup_nil
  | name :: rest =>
    rw [List.eraseDups_cons, List.nodup_cons]
    exact ⟨by simp [List.mem_eraseDups], nodup_eraseDups _⟩
termination_by names.length
decreasing_by exact Nat.lt_succ_of_le (List.length_filter_le _ rest)

theorem config_shows {order : CheckOrder} {root : PathName}
    {value : Setting → Except Obstacle Value} {config : Config}
    (made : Settings.config order root value = .ok config)
    : Shows root (fun setting shown => value setting = .ok shown) config := by
  obtain ⟨dryRun, isDryRun, verbose, isVerbose, clean, isClean, check, isCheck, respects,
    isRespects, content, isContent, name, isName, report, isReport, names, ⟨list, isList, lists⟩,
    plain, rfl⟩ := compose_eq_ok_iff.mp (config_eq_ok_iff.mp made)
  exact {
    root := rfl
    dryRun := isDryRun
    verbose := isVerbose
    respects := isRespects
    content := isContent
    name := isName
    report := isReport
    dirs := ⟨list, names, isList, lists, nodup_eraseDups _, fun name => List.mem_eraseDups⟩
    mode := ⟨clean, check, isClean, isCheck, rfl⟩
  }

-----------------------------------------------------------------------------------------
-- Keys and names
-----------------------------------------------------------------------------------------

theorem mem_all (setting : Setting) : setting ∈ Setting.all := by
  cases setting <;> decide

/-- A key is the one of a setting if it is the text of its name. -/
theorem isKeyOf_iff {setting : Setting} {key : Atom}
    : isKeyOf setting key = true ↔ key = .string setting.name := by
  rw [isKeyOf, decide_eq_true_iff]
  cases key <;> simp only [Atom.key] <;> first | simp; done | split <;> simp

/-- All keys of a file are those of settings. -/
theorem unknownKeys_eq_nil_iff {file : FileSettings}
    : unknownKeys file = []
      ↔ ∀ entry ∈ file.entries, ∃ setting : Setting, entry.1 = .string setting.name := by
  simp only [unknownKeys, List.filter_eq_nil_iff, List.forall_mem_map, Bool.not_eq_true',
    Bool.not_eq_false, List.any_eq_true, isKeyOf_iff]
  refine forall₂_congr fun entry _ => exists_congr fun setting => ?_
  exact and_iff_right (mem_all setting)

/-- All names on the command line of which something is said are those of settings. -/
theorem unknownNames_eq_nil_iff {overrides : Overrides}
    : unknownNames overrides = []
      ↔ ∀ entry ∈ overrides, entry.2 ≠ .null → ∃ setting : Setting, entry.1 = setting.name := by
  simp only [unknownNames, List.filter_eq_nil_iff, List.forall_mem_map, List.mem_filter,
    Bool.not_eq_true', Bool.not_eq_false, Setting.isName, List.any_eq_true, decide_eq_true_eq,
    isGiven_iff, and_imp]
  refine forall₂_congr fun entry _ => forall_congr' fun _ => exists_congr fun setting => ?_
  exact (and_iff_right (mem_all setting)).trans eq_comm

end Settings

-----------------------------------------------------------------------------------------
-- Loading
-----------------------------------------------------------------------------------------

namespace SettingsFile

/-- Settings make a configuration if no name is unknown and all values pass. -/
theorem build_eq_ok_iff {root : PathName} {file : FileSettings} {overrides : Overrides}
    {order : CheckOrder} {config : Config}
    : (build root file overrides order).1 = .ok config
      ↔ Settings.unknownNames overrides = []
        ∧ Settings.config order root (Settings.merged file overrides) = .ok config := by
  rw [build]
  split
  · next named =>
    rw [and_iff_right named]
    dsimp only
    cases Settings.config order root (Settings.merged file overrides) with
    | error error => simp
    | ok made => simp
  · next unknown =>
    refine iff_of_false (fun made => ?_) fun made => unknown made.1
    cases made

section

variable {tree : Node} {here : Location} {root : String} {path : PathName} {document : Document}
  (found : rootOf tree here root = .ok path)
  (documents : Documents tree (path.child fileName) document) {overrides : Overrides}
  {order : CheckOrder}

include found documents

/-- What is loaded is built from the mapping that a document is, if its keys are known. -/
theorem load_of_mapping {settings : FileSettings} (mapping : document.settings? = some settings)
    : (load tree here root overrides order).1 = (do
        let known ← checkKeys settings
        (build path known overrides order).1) := by
  rw [load_of_root found, read_of_mapping documents mapping]

/-- A configuration is loaded if the document is a mapping with known keys and its settings make
one.
-/
theorem load_eq_ok_iff {config : Config}
    : (load tree here root overrides order).1 = .ok config
      ↔ ∃ settings, document.settings? = some settings ∧ Settings.unknownKeys settings = []
        ∧ Settings.unknownNames overrides = []
        ∧ Settings.config order path (Settings.merged settings overrides) = .ok config := by
  cases mapping : document.settings? with
  | none =>
      refine iff_of_false (fun loaded => ?_) (by simp)
      obtain ⟨error, failed⟩ := read_of_noMapping documents mapping
      rw [load_of_root found, failed] at loaded
      cases loaded
  | some settings =>
      simp only [load_of_mapping found documents mapping, bind_eq_ok_iff, checkKeys_eq_ok_iff,
        Option.some.injEq, exists_eq_left', ← build_eq_ok_iff]
      simp

end

/-- Two documents are mappings with known keys, and differ only in values of settings of which the
command line says something.
-/
def DifferHidden (overrides : Overrides) (document other : Document) : Prop :=
  ∃ settings others, document.settings? = some settings ∧ other.settings? = some others
    ∧ Settings.unknownKeys settings = [] ∧ Settings.unknownKeys others = []
    ∧ ∀ setting, Settings.IsSilent overrides setting
      → Settings.fileValue? others setting = Settings.fileValue? settings setting

/-- With a settings file that spells a document or is not there, a configuration is loaded if and
only if the document is a mapping, all its keys and all names on the command line are those of
settings, and the value that counts of each setting is of its kind. The configuration shows exactly
these values, and whatever else the file says where the command line says something, the same is
loaded or fails in the same way.
-/
theorem load_accepts {tree : Node} {here : Location} {root : String} {path : PathName}
    {document : Document} (found : rootOf tree here root = .ok path)
    (documents : Documents tree (path.child fileName) document) (overrides : Overrides)
    (order : CheckOrder)
    : ((∃ config, (load tree here root overrides order).1 = .ok config)
        ↔ ∃ settings, document.settings? = some settings
          ∧ (∀ entry ∈ settings.entries, ∃ setting : Setting, entry.1 = .string setting.name)
          ∧ (∀ entry ∈ overrides, entry.2 ≠ .null → ∃ setting : Setting, entry.1 = setting.name)
          ∧ Settings.Accepted (Settings.Counts settings overrides))
      ∧ (∀ config, (load tree here root overrides order).1 = .ok config
        → ∃ settings, document.settings? = some settings
          ∧ Settings.Shows path (Settings.Counts settings overrides) config)
      ∧ ∀ (other : Node) (changed : Document), rootOf other here root = .ok path
        → Documents other (path.child fileName) changed → DifferHidden overrides document changed
        → (load other here root overrides order).1 = (load tree here root overrides order).1 := by
  have layers (settings : FileSettings)
      : Settings.Accepted (fun setting shown =>
          Settings.merged settings overrides setting = .ok shown)
        ↔ Settings.Accepted (Settings.Counts settings overrides) :=
    ⟨fun h => h.imp fun _ _ _ => Settings.counts_of_merged,
      fun h => h.imp fun _ _ takes counts => Settings.merged_of_counts counts takes⟩
  refine ⟨?_, fun config loaded => ?_, fun other changed foundAgain documented hidden => ?_⟩
  · simp only [load_eq_ok_iff found documents, ← Settings.unknownKeys_eq_nil_iff,
      ← Settings.unknownNames_eq_nil_iff, ← layers]
    rw [exists_comm]
    simp only [exists_and_left, Settings.exists_config_iff]
  · obtain ⟨settings, mapping, _, _, made⟩ := (load_eq_ok_iff found documents).mp loaded
    exact ⟨settings, mapping,
      (Settings.config_shows made).imp fun _ _ => Settings.counts_of_merged⟩
  · obtain ⟨settings, others, mapping, mappingToo, known, knownToo, same⟩ := hidden
    have merges := Settings.merged_congr same
    rw [load_of_mapping found documents mapping, load_of_mapping foundAgain documented mappingToo,
      checkKeys_eq_ok_iff.mpr ⟨known, rfl⟩, checkKeys_eq_ok_iff.mpr ⟨knownToo, rfl⟩]
    simp only [bind, Except.bind, build, merges]

/-- A project whose settings file says what the content is, and something about `verbose`. -/
def loudTree (verbose : String) : Node :=
  .dir [("p", .dir [(".gitkeepcfg",
    .file ("content: hi\nverbose: " ++ verbose ++ "\n").toUTF8)])]

/-- A command line that is silent about the content and asks for a loud cleaning. -/
def loudOverrides : Overrides :=
  [("clean", .bool true), ("content", .null), ("verbose", .bool true)]

/-- What is loaded there. -/
def loudConfig : Config where
  root := ⟨.slash, ["p"]⟩
  mode := .clean
  markerContent := "hi"
  excludeDirs := [".git", "node_modules", ".next", "dist", "build"]
  verbose := true

/-- Whether some settings say that the content is `hi`, and nothing else but of `verbose`. -/
def saysHi (settings : FileSettings) : Bool :=
  (Settings.unknownKeys settings).isEmpty
    && (match Settings.fileValue? settings .content with
      | some (.ok (.string text)) => text = "hi"
      | _ => false)
    && Setting.all.all fun setting =>
      setting = .content || setting = .verbose || (Settings.fileValue? settings setting).isNone

/-- Documents that say so differ in what the command line hides. -/
theorem differHidden_of_saysHi {document other : Document}
    (tells : document.settings?.any saysHi = true) (also : other.settings?.any saysHi = true)
    : DifferHidden loudOverrides document other := by
  have values {settings : FileSettings} (tells : saysHi settings = true)
      : Settings.unknownKeys settings = []
        ∧ ∀ setting, Settings.IsSilent loudOverrides setting
          → Settings.fileValue? settings setting
            = if setting = .content then some (.ok (.string "hi")) else none := by
    simp only [saysHi, Bool.and_eq_true, List.isEmpty_iff, List.all_eq_true] at tells
    obtain ⟨⟨known, content⟩, others⟩ := tells
    refine ⟨known, fun setting silent => ?_⟩
    split
    · next same =>
      subst same
      split at content
      · next text said => rw [said, of_decide_eq_true content]
      · cases content
    · next different =>
      have loud : setting ≠ .verbose := by
        rintro rfl
        cases silent _ rfl
      simpa [different, loud] using others setting (Settings.mem_all setting)
  obtain ⟨settings, mapping, tells⟩ := (Option.any_eq_true _ _).mp tells
  obtain ⟨others, mappingToo, also⟩ := (Option.any_eq_true _ _).mp also
  obtain ⟨known, own⟩ := values tells
  obtain ⟨knownToo, theirs⟩ := values also
  exact ⟨settings, others, mapping, mappingToo, known, knownToo, fun setting silent =>
    (theirs setting silent).trans (own setting silent).symm⟩

theorem eq_ok_of_toOption {ε α : Type} {result : Except ε α} {a : α}
    (some : result.toOption = some a)
    : result = .ok a := by
  cases result with
  | error _ => cases some
  | ok _ => cases some; rfl

/-- What `verbose` is in the file makes no difference there: a list, which would be refused, is as
good as a truth value.
-/
theorem load_accepts_loud
    : (load (loudTree "[1]") ["p"] "." loudOverrides).1 = .ok loudConfig
      ∧ (load (loudTree "no") ["p"] "." loudOverrides).1 = .ok loudConfig
      ∧ ∃ document, Documents (loudTree "[1]") ⟨.slash, ["p", ".gitkeepcfg"]⟩ document
        ∧ ∃ settings, document.settings? = some settings
          ∧ Settings.Accepted (Settings.Counts settings loudOverrides)
          ∧ Settings.Shows ⟨.slash, ["p"]⟩ (Settings.Counts settings loudOverrides) loudConfig := by
  have documented (verbose : String)
      (tells : (Document.ofSource (Source.ofBytes
        ("content: hi\nverbose: " ++ verbose ++ "\n").toUTF8)).toOption.any
          (·.settings?.any saysHi) = true)
      : ∃ document, Documents (loudTree verbose) ⟨.slash, ["p", ".gitkeepcfg"]⟩ document
        ∧ document.settings?.any saysHi = true := by
    obtain ⟨document, spelled, tells⟩ := (Option.any_eq_true _ _).mp tells
    exact ⟨document, .present rfl (eq_ok_of_toOption spelled), tells⟩
  obtain ⟨document, documents, tells⟩ := documented "[1]" (by decide +kernel)
  obtain ⟨other, documentsToo, also⟩ := documented "no" (by decide +kernel)
  have loaded : (load (loudTree "[1]") ["p"] "." loudOverrides).1 = .ok loudConfig :=
    eq_ok_of_toOption (by decide +kernel)
  have found (verbose : String) : rootOf (loudTree verbose) ["p"] "." = .ok ⟨.slash, ["p"]⟩ := rfl
  obtain ⟨accepts, showing, hides⟩ := load_accepts (found "[1]") documents loudOverrides .listed
  have same := hides (loudTree "no") other (found "no") documentsToo
    (differHidden_of_saysHi tells also)
  obtain ⟨settings, mapping, _, _, accepted⟩ := accepts.mp ⟨loudConfig, loaded⟩
  obtain ⟨_, mappingToo, shown⟩ := showing loudConfig loaded
  cases mapping.symm.trans mappingToo
  exact ⟨loaded, same.trans loaded, document, documents, settings, mapping, accepted, shown⟩

end SettingsFile

end DirMarkers
