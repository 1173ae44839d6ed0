import DirMarkers.Proofs.Run.Evidence
import DirMarkers.Proofs.Settings.Merging
import DirMarkers.Proofs.Tree.Filling
import DirMarkers.Proofs.Tree.Sorted

/-!
What a walk spares. It removes files from the places of markers and puts files where nothing is; a
file that was there before is written over only through a link that has the name of the marker.
-/

namespace DirMarkers

/-- Settling a marker does nothing, creates a marker that was found to be missing, or removes one
that was found.
-/
theorem Marker.settle_tree (config : Config) (faults : Faults) (path : PathName) (dir : DirPath)
    (isEmpty hasMarker : Bool) (tree : Node)
    : (settle config faults path dir isEmpty hasMarker tree).tree = tree
      ∨ (hasMarker = false ∧ faults.crash? .write (path.join config.markerName) = none
        ∧ faults.write tree (path.join config.markerName) config.markerContent.toUTF8
          = .ok (settle config faults path dir isEmpty hasMarker tree).tree)
      ∨ (hasMarker = true ∧ faults.crash? .remove (path.join config.markerName) = none
        ∧ faults.remove tree (path.join config.markerName)
          = .ok (settle config faults path dir isEmpty hasMarker tree).tree) := by
  rw [settle]
  cases due : duty config.mode isEmpty hasMarker with
  | error crash => exact .inl rfl
  | ok duty =>
      cases duty with
      | leave => exact .inl rfl
      | reportMissing => exact .inl rfl
      | reportSpare => exact .inl rfl
      | create =>
          simp only [perform, create]
          split
          · exact .inl rfl
          · cases crash : faults.crash? .write (path.join config.markerName) with
            | some crash => exact .inl rfl
            | none =>
                cases faults.write tree (path.join config.markerName)
                  config.markerContent.toUTF8 with
                | error error => exact .inl rfl
                | ok changed => exact .inr (.inl ⟨(of_duty_create due).2.2, rfl, rfl⟩)
      | remove =>
          simp only [perform, remove]
          split
          · exact .inl rfl
          · cases crash : faults.crash? .remove (path.join config.markerName) with
            | some crash => exact .inl rfl
            | none =>
                cases faults.remove tree (path.join config.markerName) with
                | error error => exact .inl rfl
                | ok changed => exact .inr (.inr ⟨of_duty_remove due, rfl, rfl⟩)

/-- The path of the marker of a directory ends at a link, and a file that is written there is put in
another place.
-/
structure MarkerLeads (config : Config) (tree : Node) (dir : DirPath) (place : Location)
    : Prop where
  link
    : ∃ location target,
        Tree.linkStat tree [] ((config.root.under dir).child config.markerName).parts
        = .ok (location, .link target)
  fills
    : (Tree.resolve tree .fill [] ((config.root.under dir).child config.markerName).parts).place
      = .ok place

/-- A step from one tree to another spares the files that were there: each place is as it was, was
written through a link, or is one of those that the step owns and had or has nothing.
-/
structure Spares (config : Config) (start : Node) (own : Location → Prop) (tree after : Node)
    : Prop where
  sorted : after.IsSorted
  same : after.Matches start
  files
    : ∀ place,
        after.kindAt place = tree.kindAt place
        ∨ (after.kindAt place = some (.file config.markerContent.toUTF8)
          ∧ ∃ dir, MarkerLeads config start dir place)
        ∨ (own place ∧ (tree.kindAt place = none ∨ after.kindAt place = none))

namespace Spares

variable {config : Config} {start tree middle after : Node} {own others : Location → Prop}

theorem still (sorted : tree.IsSorted) (same : tree.Matches start)
    : Spares config start own tree tree :=
  ⟨sorted, same, fun _ => .inl rfl⟩

theorem mono (h : Spares config start own tree after) (more : ∀ place, own place → others place)
    : Spares config start others tree after := by
  refine ⟨h.sorted, h.same, fun place => ?_⟩
  rcases h.files place with kept | led | ⟨owned, gone⟩
  · exact .inl kept
  · exact .inr (.inl led)
  · exact .inr (.inr ⟨more place owned, gone⟩)

/-- Two steps that own different places spare together what each of them does. -/
theorem trans (hf : Spares config start own tree middle)
    (hn : Spares config start others middle after) (apart : ∀ place, own place → ¬ others place)
    : Spares config start (fun place => own place ∨ others place) tree after := by
  refine ⟨hn.sorted, hn.same, fun place => ?_⟩
  rcases hn.files place with kept | led | ⟨owned, gone⟩
  · rw [kept]
    rcases hf.files place with unchanged | led | ⟨owned, gone⟩
    · exact .inl unchanged
    · exact .inr (.inl led)
    · exact .inr (.inr ⟨.inl owned, gone⟩)
  · exact .inr (.inl led)
  · rcases hf.files place with unchanged | ⟨written, led⟩ | ⟨also, _⟩
    · rw [unchanged] at gone
      exact .inr (.inr ⟨.inr owned, gone⟩)
    · refine .inr (.inr ⟨.inr owned, .inr (gone.resolve_left fun none => ?_)⟩)
      cases written.symm.trans none
    · exact absurd owned (apart place also)

end Spares

-----------------------------------------------------------------------------------------
-- Settling a marker
-----------------------------------------------------------------------------------------

/-- A call on the path of a marker that can be made and succeeds shows that the marker has the name
of an entry.
-/
theorem isEntryName_of_call {faults : Faults} {call : Call} {path : PathName} {name : String}
    {α : Type} {act : List String → Except Errno α} {result : α}
    (plain : Settings.isFileName name = true)
    (noCrash : faults.crash? call (path.child name) = none)
    (done : faults.attempt call (path.child name) act = .ok result)
    : IsEntryName name := by
  cases nul : holdsNul name with
  | false => exact Settings.isEntryName_of_plain plain nul
  | true =>
      have text : holdsNul (path.child name).text = true :=
        PathName.holdsNul_of_part (List.mem_append_right _ (List.mem_singleton_self name)) nul
      rw [Faults.crash?, text, Bool.and_true] at noCrash
      rw [Faults.attempt] at done
      cases fault : faults call (path.child name) with
      | none =>
          rw [fault] at noCrash
          cases noCrash
      | some errno =>
          rw [fault] at done
          cases done

section

variable {config : Config} {faults : Faults} {location : Location} {start tree : Node}
  {dir : DirPath} (rooted : Rooted config.root location start)
  (there : start.kindAt (location ++ dir) = some .dir)
  (sorted : tree.IsSorted) (same : tree.Matches start)

include rooted there same

/-- The path of a directory still leads to it when files have come and gone. -/
theorem Node.Matches.leads
    : Tree.Leads tree Tree.linkLimit [] (config.root.under dir).parts (location ++ dir)
      ∧ ∃ entries, tree.get? (location ++ dir) = some (.dir entries) := by
  obtain ⟨entries, original⟩ := Node.kindAt_eq_dir.mp there
  have leads := (Rooted.of_stat rooted.wellFormed (rooted.stat_under original)).leads
  exact ⟨leads.transport same.back.dirs same.back.linked,
    Node.kindAt_eq_dir.mp (same.back.dirs _ there)⟩

/-- A link in the place of a marker leads to where a file is put. -/
theorem Node.Matches.markerLeads {target : String} {place : Location}
    (named : IsEntryName config.markerName)
    (link : tree.kindAt (location ++ dir ++ [config.markerName]) = some (.link target))
    (placed : (Tree.resolve tree .fill []
      ((config.root.under dir).child config.markerName).parts).place = .ok place)
    : MarkerLeads config start dir place := by
  obtain ⟨entries, original⟩ := Node.kindAt_eq_dir.mp there
  have leads := (Rooted.of_stat rooted.wellFormed (rooted.stat_under original)).leads
  have inPlace := Node.kindAt_eq_link.mp (same.within.linked _ _ link)
  have short := (rooted.wellFormed.name inPlace).2
  have resolved := leads.resolve_entry original named .keep (.inl rfl)
  rw [if_neg (Nat.not_lt.mpr short), inPlace] at resolved
  refine ⟨⟨location ++ dir ++ [config.markerName], target, ?_⟩, ?_⟩
  · rw [Tree.linkStat, Tree.resolve]
    exact congrArg Arrival.node resolved
  · have top := (same.leads rooted there).1.starts
    exact Tree.place_of_matches same Tree.linkLimit [] _ top placed

include sorted

/-- Where a marker is created, nothing was, or a file that a link leads to. Witness: a marker that
is no link is created in its own place, and it was missing before the subdirectories were visited.
-/
theorem Marker.spares_of_create {before after : Node} {own : Location → Prop}
    (named : IsEntryName config.markerName)
    (missing : before.hasFileAt (location ++ dir ++ [config.markerName]) = false)
    (earlier : Spares config start own before tree)
    (apart : ¬ own (location ++ dir ++ [config.markerName]))
    (written : faults.write tree ((config.root.under dir).child config.markerName)
      config.markerContent.toUTF8 = .ok after)
    : Spares config start (· = location ++ dir ++ [config.markerName]) tree after := by
  obtain ⟨leads, entries, listed⟩ := same.leads rooted there
  obtain ⟨place, placed, rfl⟩ := Faults.put_of_write written
  have sound := Tree.resolveWithin_isSound tree .fill Tree.linkLimit []
    ((config.root.under dir).child config.markerName).parts
  obtain ⟨free, kinds⟩ := Node.kindAt_put_place sound placed config.markerContent.toUTF8
  have now := (kinds place).trans (if_pos rfl)
  refine ⟨sorted.put_place sound placed _, ?_, fun other => ?_⟩
  · refine .trans (.of_change free ?_ fun other elsewhere => ?_) same
    · intro kind found
      exact ⟨_, Option.some.inj (found.symm.trans now)⟩
    · rw [kinds, if_neg elsewhere]
  by_cases elsewhere : other = place
  swap
  · exact .inl ((kinds other).trans (if_neg elsewhere))
  subst elsewhere
  by_cases linked : ∃ target, tree.kindAt (location ++ dir ++ [config.markerName])
      = some (.link target)
  · obtain ⟨target, link⟩ := linked
    exact .inr (.inl ⟨now, dir, same.markerLeads rooted there named link placed⟩)
  obtain rfl := leads.place_of_entry listed named (not_exists.mp linked) placed
  cases kind : tree.kindAt (location ++ dir ++ [config.markerName]) with
  | none => exact .inr (.inr ⟨rfl, .inl rfl⟩)
  | some _ =>
      -- Nothing but a write through a link can have put a file here since it was missing.
      obtain ⟨content, rfl⟩ := free _ kind
      rcases earlier.files (location ++ dir ++ [config.markerName]) with
        kept | ⟨_, led⟩ | ⟨owned, _⟩
      · have present := Node.hasFileAt_eq_true.mpr ⟨content, kept.symm.trans kind⟩
        cases present.symm.trans missing
      · exact .inr (.inl ⟨now, led⟩)
      · exact absurd owned apart

/-- Where a marker is removed, it was found before the subdirectories were visited, and it is still
there since none of them owns its place.
-/
theorem Marker.spares_of_remove {before after : Node} {own : Location → Prop}
    (named : IsEntryName config.markerName)
    (found : before.hasFileAt (location ++ dir ++ [config.markerName]) = true)
    (earlier : Spares config start own before tree)
    (apart : ¬ own (location ++ dir ++ [config.markerName]))
    (removed : faults.remove tree ((config.root.under dir).child config.markerName) = .ok after)
    : Spares config start (· = location ++ dir ++ [config.markerName]) tree after := by
  obtain ⟨leads, entries, listed⟩ := same.leads rooted there
  obtain ⟨content, present⟩ : ∃ content,
      tree.kindAt (location ++ dir ++ [config.markerName]) = some (.file content) := by
    obtain ⟨content, was⟩ := Node.hasFileAt_eq_true.mp found
    rcases earlier.files (location ++ dir ++ [config.markerName]) with kept | ⟨now, _⟩ | ⟨owned, _⟩
    · exact ⟨content, kept.trans was⟩
    · exact ⟨_, now⟩
    · exact absurd owned apart
  have free : tree.HoldsNoMoreThanFile (location ++ dir ++ [config.markerName]) :=
    fun kind there => ⟨content, Option.some.inj (there.symm.trans present)⟩
  obtain rfl : after = tree.erase (location ++ dir ++ [config.markerName]) := by
    rw [Faults.remove, Faults.attempt_eq] at removed
    split at removed
    · cases removed
    · rw [Tree.remove, Tree.linkStat, Tree.resolve, PathName.child,
        leads.resolve_entry listed named .keep (.inl rfl),
        Node.kindAt_eq_file.mp present] at removed
      by_cases long : Tree.nameLimit < config.markerName.utf8ByteSize
      · rw [if_pos long] at removed
        cases removed
      · rw [if_neg long] at removed
        exact (Except.ok.inj removed).symm
  have kinds := Node.kindAt_erase listed free.notDir
  refine ⟨sorted.erase_entry listed _, ?_, fun other => ?_⟩
  · refine .trans (.of_change free ?_ fun other elsewhere => ?_) same
    · intro kind there
      rw [kinds, if_pos rfl] at there
      cases there
    · rw [kinds, if_neg elsewhere]
  · by_cases here : other = location ++ dir ++ [config.markerName]
    · exact .inr (.inr ⟨here, .inr ((kinds other).trans (if_pos here))⟩)
    · exact .inl ((kinds other).trans (if_neg here))

/-- Settling a marker spares every file but the marker itself, if no step since the directory was
listed owned the place of the marker.
-/
theorem Marker.settle_spares (plain : Settings.isFileName config.markerName = true)
    {before : Node} {own : Location → Prop} (earlier : Spares config start own before tree)
    (apart : ¬ own (location ++ dir ++ [config.markerName])) (isEmpty : Bool)
    {hasMarker : Bool}
    (listed : hasMarker = before.hasFileAt (location ++ dir ++ [config.markerName]))
    : Spares config start (· = location ++ dir ++ [config.markerName]) tree
        (settle config faults (config.root.under dir) dir isEmpty hasMarker tree).tree := by
  have child : (config.root.under dir).join config.markerName
      = (config.root.under dir).child config.markerName := Settings.join_of_plain plain _
  have steps := settle_tree config faults (config.root.under dir) dir isEmpty hasMarker tree
  rw [child] at steps
  rcases steps with unchanged | ⟨missing, noCrash, written⟩ | ⟨found, noCrash, removed⟩
  · rw [unchanged]
    exact .still sorted same
  · have named := isEntryName_of_call plain noCrash written
    exact spares_of_create rooted there sorted same named (listed.symm.trans missing) earlier apart
      written
  · have named := isEntryName_of_call plain noCrash removed
    exact spares_of_remove rooted there sorted same named (listed.symm.trans found) earlier apart
      removed

end

-----------------------------------------------------------------------------------------
-- A visit
-----------------------------------------------------------------------------------------

namespace Walk

section

variable (config : Config) (location : Location)

/-- The places of the markers of a directory and of those below it. -/
def Owns (dir : DirPath) (place : Location) : Prop :=
  ∃ below, place = location ++ (dir ++ below) ++ [config.markerName]

end

section

variable {config : Config} {location : Location} {start : Node}

theorem owns_child {dir : DirPath} {name : String} {place : Location}
    (owned : Owns config location (dir.child name) place)
    : Owns config location dir place := by
  obtain ⟨below, rfl⟩ := owned
  exact ⟨name :: below, by simp [DirPath.child]⟩

theorem eq_of_owns {dir : DirPath} {first second : String} {place : Location}
    (hf : Owns config location (dir.child first) place)
    (hs : Owns config location (dir.child second) place)
    : first = second := by
  obtain ⟨below, rfl⟩ := hf
  obtain ⟨under, same⟩ := hs
  simp only [DirPath.child, List.append_assoc, List.append_cancel_left_eq, List.cons_append,
    List.nil_append, List.cons.injEq] at same
  exact same.1

theorem not_owns_child (dir : DirPath) (name : String)
    : ¬ Owns config location (dir.child name) (location ++ dir ++ [config.markerName]) := by
  intro owned
  obtain ⟨below, same⟩ := owned
  simp [DirPath.child] at same

/-- Visits to subdirectories spare the files together, since no two of them own a place in common.
-/
theorem visitAll_spares (faults : Faults) (tables : Ignore.Tables)
    {entries : List (String × Node)} (dir : DirPath) {tree : Node}
    (increasing : entries.Pairwise (·.1 < ·.1))
    (each : ∀ entry ∈ entries, ∀ {tree : Node}, tree.IsSorted → tree.Matches start
      → Spares config start (Owns config location (dir.child entry.1)) tree
        (visit config faults tables entry.2 (config.root.under (dir.child entry.1))
          (dir.child entry.1) tree).tree)
    (sorted : tree.IsSorted) (same : tree.Matches start)
    : Spares config start
        (fun place => ∃ entry ∈ entries, Owns config location (dir.child entry.1) place) tree
        (visitAll config faults tables entries (config.root.under dir) dir tree).tree := by
  induction entries generalizing tree with
  | nil => exact .still sorted same
  | cons entry rest ih =>
      obtain ⟨larger, tail⟩ := List.pairwise_cons.mp increasing
      have first := each entry List.mem_cons_self sorted same
      have later := ih tail (fun other member => each other (List.mem_cons_of_mem _ member))
        first.sorted first.same
      have apart (place : Location) (owned : Owns config location (dir.child entry.1) place)
          : ¬ ∃ other ∈ rest, Owns config location (dir.child other.1) place := by
        intro also
        obtain ⟨other, member, owns⟩ := also
        exact String.lt_irrefl entry.1 (eq_of_owns owns owned ▸ larger other member)
      rw [visitAll, PathName.child_under, Step.bind]
      cases (visit config faults tables entry.2 (config.root.under (dir.child entry.1))
        (dir.child entry.1) tree).answer with
      | error crash => exact first.mono fun place owned => ⟨entry, List.mem_cons_self, owned⟩
      | ok isEmpty =>
          refine (first.trans later apart).mono fun place owned => ?_
          rcases owned with here | ⟨other, member, there⟩
          · exact ⟨entry, List.mem_cons_self, here⟩
          · exact ⟨other, List.mem_cons_of_mem _ member, there⟩

/-- A visit spares every file but the markers of the directory and of those below it. Witness:
induction on the node; when its subdirectories are done with, none of them owned its own marker.
-/
theorem visit_spares (rooted : Rooted config.root location start)
    (plain : Settings.isFileName config.markerName = true) (faults : Faults)
    (tables : Ignore.Tables) (node : Node) {dir : DirPath} {tree : Node}
    (original : start.get? (location ++ dir) = some node) (sorted : tree.IsSorted)
    (same : tree.Matches start)
    : Spares config start (Owns config location dir) tree
        (visit config faults tables node (config.root.under dir) dir tree).tree := by
  induction node using Node.induction generalizing dir tree with
  | file _ => exact .still sorted same
  | link _ => exact .still sorted same
  | dir entries ih =>
      have there : start.kindAt (location ++ dir) = some .dir :=
        Node.kindAt_eq_dir.mpr ⟨_, original⟩
      have orderly := rooted.wellFormed.orderly original
      obtain ⟨leads, listing, here⟩ := same.leads rooted there
      have inside := visitAll_spares faults tables dir orderly.increasing
        (fun entry member _ sorted same =>
          ih entry member (rooted.wellFormed.get?_child original member) sorted same) sorted same
      have below : ∀ place, (∃ entry ∈ entries, Owns config location (dir.child entry.1) place)
          → Owns config location dir place := by
        intro place owned
        obtain ⟨entry, _, owns⟩ := owned
        exact owns_child owns
      have apart : ¬ ∃ entry ∈ entries, Owns config location (dir.child entry.1)
          (location ++ dir ++ [config.markerName]) := by
        intro owned
        obtain ⟨entry, _, owns⟩ := owned
        exact not_owns_child dir entry.1 owns
      cases skips : skip? config (tables.inForce dir) (config.root.under dir) dir with
      | mk skipped before =>
          simp only [visit, skips, Step.after]
          cases skipped with
          | true => exact .still sorted same
          | false =>
              cases faults.crash? .list (config.root.under dir) with
              | some crash => exact .still sorted same
              | none =>
                  cases listed : faults.list tree (config.root.under dir) with
                  | error error => exact .still sorted same
                  | ok found =>
                      have allowed := (Faults.list_eq_ok_iff.mp listed).1
                      have own := Faults.list_eq_ok_iff.mpr ⟨allowed, _, leads, here⟩
                      obtain rfl := Except.ok.inj (listed.symm.trans own)
                      dsimp only [Bool.false_eq_true, if_false]
                      rw [Step.bind]
                      cases (visitAll config faults tables entries (config.root.under dir) dir
                        tree).answer with
                      | error crash => exact inside.mono below
                      | ok allEmpty =>
                          have hasMarker : (fileNames found).contains config.markerName
                              = tree.hasFileAt (location ++ dir ++ [config.markerName]) := by
                            rw [contains_fileNames (sorted _ _ here), Node.hasFileAt,
                              Node.get?_entry here]
                          refine (inside.trans (Marker.settle_spares rooted there inside.sorted
                            inside.same plain inside apart _ hasMarker) ?_).mono ?_
                          · rintro place owned rfl
                            exact apart owned
                          · rintro place (owned | rfl)
                            · exact below place owned
                            · exact ⟨[], by simp⟩

end

end Walk

end DirMarkers
