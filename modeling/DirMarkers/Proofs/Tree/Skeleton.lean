import DirMarkers.Proofs.Tree.Below
import DirMarkers.Proofs.Tree.Likeness

/-!
What no call on a file can bring about. Whatever path it is given, writing or removing a file makes
neither a directory nor a link, so no directory can be listed afterwards that could not be before.
-/

namespace DirMarkers

namespace Arrival

/-- What an arrival says of the tree in which a path was resolved. -/
def IsSound (top : Node) : Arrival → Prop
  | .found location node => top.get? location = some node
  | .missing location name _ =>
    ∃ entries, top.get? location = some (.dir entries) ∧ Entries.find? entries name = none
  | _ => True

/-- A file is put over the file at which a path ended, or where a directory has no such entry. -/
theorem of_place {arrival : Arrival} {location : Location} (place : arrival.place = .ok location)
    : (∃ content, arrival = .found location (.file content))
      ∨ ∃ around name, location = around ++ [name] ∧ arrival = .missing around name [] := by
  rw [Arrival.place.eq_def] at place
  split at place
  · next content =>
    cases place
    exact .inl ⟨content, rfl⟩
  · cases place
  · next around name =>
    cases place
    exact .inr ⟨around, name, rfl, rfl⟩
  · cases place
  · cases place
  · cases place
  · cases place
  · cases place

/-- A call that needs a node has come to one. -/
theorem of_node {arrival : Arrival} {location : Location} {node : Node}
    (arrived : arrival.node = .ok (location, node))
    : arrival = .found location node := by
  cases arrival with
  | found _ _ =>
      cases arrived
      rfl
  | _ => cases arrived

end Arrival

namespace Tree

/-- A resolution ends where it says. Witness: recursion on the links that may still be followed and
on the path, with one step of the resolution for its first component.
-/
theorem resolveWithin_isSound (top : Node) (last : LastLink) (links : Nat) (here : Location)
    (path : List String)
    : (resolveWithin top last links here path).IsSound top := by
  cases there : top.get? here with
  | none =>
      rw [resolveWithin.eq_def, there]
      trivial
  | some node =>
      cases path with
      | nil =>
          rw [resolveWithin_nil there]
          exact there
      | cons step rest =>
          cases node with
          | file _ =>
              rw [resolveWithin_blocked there (by simp)]
              trivial
          | link _ =>
              rw [resolveWithin_blocked there (by simp)]
              trivial
          | dir entries =>
              by_cases idle : step = "" ∨ step = "."
              · rw [resolveWithin_stay there idle]
                apply resolveWithin_isSound
              by_cases up : step = ".."
              · subst up
                rw [resolveWithin_up there]
                apply resolveWithin_isSound
              have named : step ≠ "" ∧ step ≠ "." ∧ step ≠ ".." :=
                ⟨fun h => idle (.inl h), fun h => idle (.inr h), up⟩
              have entry := Node.get?_entry there step
              rw [resolveWithin_name there named]
              by_cases long : nameLimit < step.utf8ByteSize
              · rw [if_pos long]
                trivial
              rw [if_neg long]
              cases found : Entries.find? entries step with
              | none => exact ⟨entries, there, found⟩
              | some child =>
                  cases child with
                  | file _ => apply resolveWithin_isSound
                  | dir _ => apply resolveWithin_isSound
                  | link target =>
                      dsimp only
                      by_cases kept : last = .keep ∧ rest = []
                      · rw [if_pos kept]
                        exact entry.trans found
                      rw [if_neg kept]
                      by_cases filled : last = .fill ∧ rest = [""]
                      · rw [if_pos filled]
                        trivial
                      rw [if_neg filled]
                      cases links with
                      | zero => trivial
                      | succ fewer => apply resolveWithin_isSound
termination_by (links, path.length)

end Tree

/-- What is listed is the directory that the path leads to. -/
theorem Tree.leads_of_list {top : Node} {path : List String} {listing : Entries}
    (listed : list top [] path = .ok listing)
    : ∃ goal, Leads top linkLimit [] path goal ∧ top.get? goal = some (.dir listing) := by
  have sound := resolveWithin_isSound top .follow linkLimit [] path
  rw [list] at listed
  split at listed
  · next goal entries arrived =>
    cases listed
    have found := Arrival.of_node arrived
    rw [resolve] at found
    rw [found] at sound
    exact ⟨goal, .of_found found, sound⟩
  · cases listed
  · cases listed

/-- A directory can be listed if nothing forbids the call and its path leads to the directory. -/
theorem Faults.list_eq_ok_iff {faults : Faults} {top : Node} {path : PathName} {listing : Entries}
    : faults.list top path = .ok listing
      ↔ faults.refusal? .list path = Option.none
        ∧ ∃ goal, Tree.Leads top Tree.linkLimit [] path.parts goal
          ∧ top.get? goal = some (.dir listing) := by
  rw [Faults.list, Faults.attempt_eq]
  cases faults.refusal? .list path with
  | some error => simp
  | none =>
      constructor
      · intro listed
        cases inside : Tree.list top [] path.parts with
        | ok entries =>
            rw [inside] at listed
            cases listed
            exact ⟨rfl, Tree.leads_of_list inside⟩
        | error errno =>
            rw [inside] at listed
            cases listed
      · intro h
        obtain ⟨_, goal, leads, there⟩ := h
        obtain ⟨left, whole⟩ := leads.resolve_append .follow (.inl rfl)
        rw [List.append_nil, Tree.resolveWithin_nil there] at whole
        simp only [Tree.list, Tree.stat, Tree.resolve, whole, Arrival.node]
        rfl

namespace Node

/-- The directories and links of one tree are among those of another. -/
structure Within (tree start : Node) : Prop where
  dirs : ∀ location, tree.kindAt location = some .dir → start.kindAt location = some .dir
  linked
    : ∀ location target,
        tree.kindAt location = some (.link target) → start.kindAt location = some (.link target)

namespace Within

variable {tree middle start : Node}

theorem refl (tree : Node) : Within tree tree :=
  ⟨fun _ there => there, fun _ _ there => there⟩

theorem trans (hl : Within tree middle) (hr : Within middle start) : Within tree start :=
  ⟨fun _ there => hr.dirs _ (hl.dirs _ there), fun _ _ there => hr.linked _ _ (hl.linked _ _ there)⟩

/-- A directory that can be listed could be listed already in a tree with no fewer directories and
links, since the path leads to it there as well.
-/
theorem list (h : Within tree start) {faults : Faults} {path : PathName} {listing : Entries}
    (listed : faults.list tree path = .ok listing)
    : ∃ before, faults.list start path = .ok before := by
  obtain ⟨allowed, goal, leads, there⟩ := Faults.list_eq_ok_iff.mp listed
  obtain ⟨before, original⟩ := kindAt_eq_dir.mp (h.dirs goal (kindAt_eq_dir.mpr ⟨_, there⟩))
  have same := leads.transport h.dirs h.linked
  exact ⟨before, Faults.list_eq_ok_iff.mpr ⟨allowed, goal, same, original⟩⟩

/-- A tree that differs at one location only, and has a file or nothing there, is within the other.
-/
theorem of_change (location : Location) (free : tree.HoldsNoMoreThanFile location)
    (kept : ∀ other, other ≠ location → tree.kindAt other = start.kindAt other)
    : Within tree start := by
  have old {other : Location} {kind : Kind} (there : tree.kindAt other = some kind)
      (notFile : ∀ content, kind ≠ .file content)
      : start.kindAt other = some kind := by
    by_cases here : other = location
    · subst here
      obtain ⟨content, file⟩ := free kind there
      exact absurd file (notFile content)
    · exact (kept other here).symm.trans there
  exact ⟨fun _ there => old there nofun, fun _ _ there => old there nofun⟩

end Within

/-- A file that is put in a place that a path leads to shows there, and there was no directory and
no link.
-/
theorem kindAt_put_place {tree : Node} {arrival : Arrival} {location : Location}
    (sound : arrival.IsSound tree) (place : arrival.place = .ok location) (content : ByteArray)
    : tree.HoldsNoMoreThanFile location
      ∧ ∀ other, (Node.put (.file content) tree location).kindAt other
          = if other = location then some (.file content) else tree.kindAt other := by
  have entered {around : Location} {entries : Entries} {name : String}
      (there : tree.get? around = some (.dir entries))
      (free : tree.HoldsNoMoreThanFile (around ++ [name]))
      : tree.HoldsNoMoreThanFile (around ++ [name])
        ∧ ∀ other, (Node.put (.file content) tree (around ++ [name])).kindAt other
            = if other = around ++ [name] then some (.file content) else tree.kindAt other :=
    ⟨free, kindAt_put_file there free.notDir content⟩
  rcases Arrival.of_place place with ⟨old, rfl⟩ | ⟨around, name, rfl, rfl⟩
  · have free : tree.HoldsNoMoreThanFile location := by
      intro kind found
      rw [kindAt_eq_file.mpr sound] at found
      exact ⟨old, (Option.some.inj found).symm⟩
    rcases List.eq_nil_or_concat location with rfl | ⟨around, name, rfl⟩
    · obtain rfl : tree = .file old := Option.some.inj sound
      refine ⟨free, fun other => ?_⟩
      cases other <;> rfl
    · rw [List.concat_eq_append] at sound free ⊢
      obtain ⟨entries, there, _⟩ := dir_of_get?_entry sound
      exact entered there free
  · obtain ⟨entries, there, absent⟩ := sound
    refine entered there fun kind found => ?_
    rw [kindAt, get?_entry there, absent] at found
    cases found

/-- Putting a file in a place that a path leads to makes no directory and no link. -/
theorem within_put {tree : Node} {arrival : Arrival} {location : Location}
    (sound : arrival.IsSound tree) (place : arrival.place = .ok location) (content : ByteArray)
    : Within (Node.put (.file content) tree location) tree := by
  obtain ⟨_, kinds⟩ := kindAt_put_place sound place content
  refine .of_change location (fun kind found => ?_) fun other elsewhere => ?_
  · rw [kinds, if_pos rfl] at found
    exact ⟨content, (Option.some.inj found).symm⟩
  · rw [kinds, if_neg elsewhere]

/-- Erasing what is no directory makes no directory and no link. -/
theorem within_erase {tree node : Node} {location : Location}
    (there : tree.get? location = some node) (notDir : ∀ entries, node ≠ .dir entries)
    : Within (tree.erase location) tree := by
  rcases List.eq_nil_or_concat location with rfl | ⟨around, name, rfl⟩
  · have same : tree.erase [] = tree := by cases tree <;> rfl
    rw [same]
    exact .refl tree
  · rw [List.concat_eq_append] at there ⊢
    obtain ⟨entries, above, _⟩ := dir_of_get?_entry there
    have free : tree.kindAt (around ++ [name]) ≠ some .dir := by
      intro isDir
      obtain ⟨below, found⟩ := kindAt_eq_dir.mp isDir
      exact notDir below (Option.some.inj (there.symm.trans found))
    have kinds := kindAt_erase above free
    refine .of_change (around ++ [name]) (fun kind found => ?_) fun other elsewhere => ?_
    · rw [kinds, if_pos rfl] at found
      cases found
    · rw [kinds, if_neg elsewhere]

end Node

namespace Faults

variable {faults : Faults} {top changed : Node} {path : PathName}

/-- What is written is put in the place that the path leads to. -/
theorem put_of_write {content : ByteArray} (written : faults.write top path content = .ok changed)
    : ∃ location, (Tree.resolve top .fill [] path.parts).place = .ok location
      ∧ changed = Node.put (.file content) top location := by
  rw [write, attempt_eq] at written
  split at written
  · cases written
  · rw [Tree.write] at written
    split at written
    · next location place =>
      cases written
      exact ⟨location, place, rfl⟩
    · cases written

theorem within_write {content : ByteArray} (written : faults.write top path content = .ok changed)
    : Node.Within changed top := by
  obtain ⟨location, place, rfl⟩ := put_of_write written
  exact Node.within_put (Tree.resolveWithin_isSound top .fill Tree.linkLimit [] path.parts) place _

theorem within_remove (removed : faults.remove top path = .ok changed)
    : Node.Within changed top := by
  have sound := Tree.resolveWithin_isSound top .keep Tree.linkLimit [] path.parts
  rw [remove, attempt_eq] at removed
  split at removed
  · cases removed
  · rw [Tree.remove, Tree.linkStat, Tree.resolve] at removed
    split at removed
    · cases removed
    · next location node notDir arrived =>
      cases removed
      rw [Arrival.of_node arrived] at sound
      exact Node.within_erase sound notDir
    · cases removed

end Faults

end DirMarkers
