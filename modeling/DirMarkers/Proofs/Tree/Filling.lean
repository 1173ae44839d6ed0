import DirMarkers.Proofs.Tree.Skeleton

/-!
Where a file is put. The place that a path leads to when a file is to be put there depends on the
directories and links of a tree only, so it stays the same while files come and go.
-/

namespace DirMarkers

namespace Node

/-- Two trees have the same directories and links. -/
structure Matches (tree start : Node) : Prop where
  within : tree.Within start
  back : start.Within tree

namespace Matches

variable {tree middle start : Node} {location : Location}

theorem refl (tree : Node) : Matches tree tree :=
  ⟨.refl tree, .refl tree⟩

theorem symm (h : Matches tree start) : Matches start tree :=
  ⟨h.back, h.within⟩

theorem trans (hl : Matches tree middle) (hr : Matches middle start) : Matches tree start :=
  ⟨hl.within.trans hr.within, hr.back.trans hl.back⟩

/-- A change at one location keeps directories and links if only a file can be there before and
after it.
-/
theorem of_change (before : start.HoldsNoMoreThanFile location)
    (after : tree.HoldsNoMoreThanFile location)
    (kept : ∀ other, other ≠ location → tree.kindAt other = start.kindAt other)
    : Matches tree start :=
  ⟨.of_change location after kept, .of_change location before fun other elsewhere =>
    (kept other elsewhere).symm⟩

/-- Where one tree holds no directory and no link, the other does not either. -/
theorem plain (h : Matches tree start) (free : tree.HoldsNoMoreThanFile location)
    : start.HoldsNoMoreThanFile location := by
  intro kind there
  cases kind with
  | file content => exact ⟨content, rfl⟩
  | dir => exact free _ (h.back.dirs _ there)
  | link target => exact free _ (h.back.linked _ _ there)

end Matches

end Node

namespace Tree

/-- A file is put in the place of an entry that is no directory and no link if the path ends there.
-/
theorem place_of_plain {top : Node} {links : Nat} {here place : Location} {step : String}
    {rest : List String} {entries : Entries} (there : top.get? here = some (.dir entries))
    (named : step ≠ "" ∧ step ≠ "." ∧ step ≠ "..")
    (free : top.HoldsNoMoreThanFile (here ++ [step]))
    : (resolveWithin top .fill links here (step :: rest)).place = .ok place
      ↔ step.utf8ByteSize ≤ nameLimit ∧ rest = [] ∧ place = here ++ [step] := by
  have entry := Node.get?_entry there step
  rw [resolveWithin_name there named]
  by_cases long : nameLimit < step.utf8ByteSize
  · rw [if_pos long]
    refine iff_of_false (fun placed => ?_) fun h => Nat.not_lt.mpr h.1 long
    cases placed
  rw [if_neg long, and_iff_right (Nat.le_of_not_lt long)]
  cases found : Entries.find? entries step with
  | none =>
      constructor
      · intro placed
        rcases Arrival.of_place placed with ⟨_, same⟩ | ⟨_, _, rfl, same⟩
        · cases same
        · cases same
          exact ⟨rfl, rfl⟩
      · rintro ⟨rfl, rfl⟩
        rfl
  | some node =>
      rw [found] at entry
      obtain ⟨content, file⟩ := free node.kind (by rw [Node.kindAt, entry]; rfl)
      cases node with
      | dir _ => cases file
      | link _ => cases file
      | file content =>
          dsimp only
          cases rest with
          | nil =>
              rw [resolveWithin_nil entry]
              constructor
              · intro placed
                cases placed
                exact ⟨rfl, rfl⟩
              · rintro ⟨_, rfl⟩
                rfl
          | cons next rest =>
              rw [resolveWithin_blocked entry (fun _ same => by cases same)]
              refine iff_of_false (fun placed => ?_) fun h => List.cons_ne_nil _ _ h.1
              rcases Arrival.of_place placed with ⟨_, same⟩ | ⟨_, _, _, same⟩ <;> cases same

/-- A file is put in the place of the entry that a path ends with, unless that is a link. -/
theorem Leads.place_of_entry {top : Node} {links : Nat} {here goal place : Location}
    {path : List String} {entries : Entries} (h : Leads top links here path goal)
    (there : top.get? goal = some (.dir entries)) {name : String} (named : IsEntryName name)
    (notLink : ∀ target, top.kindAt (goal ++ [name]) ≠ some (.link target))
    (placed : (resolveWithin top .fill links here (path ++ [name])).place = .ok place)
    : place = goal ++ [name] := by
  rw [h.resolve_entry there named .fill (.inr notLink)] at placed
  split at placed
  · cases placed
  · rcases Arrival.of_place placed with ⟨content, arrived⟩ | ⟨around, last, rfl, arrived⟩
    · split at arrived
      · cases arrived
      · cases arrived
        rfl
    · split at arrived
      · cases arrived
        rfl
      · cases arrived

/-- A file is put in the same place of two trees that have the same directories and links. Witness:
recursion on the links that may still be followed and on the path, with one step of the resolution
in both trees.
-/
theorem place_of_matches {tree start : Node} (same : tree.Matches start) (links : Nat)
    (here : Location) (path : List String) {place : Location}
    (there : tree.kindAt here = some .dir)
    (placed : (resolveWithin tree .fill links here path).place = .ok place)
    : (resolveWithin start .fill links here path).place = .ok place := by
  obtain ⟨entries, listed⟩ := Node.kindAt_eq_dir.mp there
  obtain ⟨others, otherListed⟩ := Node.kindAt_eq_dir.mp (same.within.dirs _ there)
  cases path with
  | nil =>
      rw [resolveWithin_nil listed] at placed
      cases placed
  | cons step rest =>
      by_cases idle : step = "" ∨ step = "."
      · rw [resolveWithin_stay listed idle] at placed
        rw [resolveWithin_stay otherListed idle]
        exact place_of_matches same links here rest there placed
      by_cases up : step = ".."
      · subst up
        rw [resolveWithin_up listed] at placed
        rw [resolveWithin_up otherListed]
        refine place_of_matches same links here.dropLast rest ?_ placed
        rcases List.eq_nil_or_concat here with rfl | ⟨around, name, rfl⟩
        · exact there
        · rw [List.concat_eq_append] at there ⊢
          rw [List.dropLast_concat]
          exact Node.dir_of_kindAt_below there
      have named : step ≠ "" ∧ step ≠ "." ∧ step ≠ ".." :=
        ⟨fun h => idle (.inl h), fun h => idle (.inr h), up⟩
      have plain (free : tree.HoldsNoMoreThanFile (here ++ [step]))
          : (resolveWithin start .fill links here (step :: rest)).place = .ok place :=
        (place_of_plain otherListed named (same.plain free)).mpr
          ((place_of_plain listed named free).mp placed)
      cases kind : tree.kindAt (here ++ [step]) with
      | none => exact plain fun other found => nomatch kind.symm.trans found
      | some child =>
          cases child with
          | file content =>
              exact plain fun other found => ⟨content, Option.some.inj (found.symm.trans kind)⟩
          | dir =>
              obtain ⟨below, inside⟩ := Node.kindAt_eq_dir.mp kind
              obtain ⟨others, otherInside⟩ := Node.kindAt_eq_dir.mp (same.within.dirs _ kind)
              rw [Node.get?_entry listed step] at inside
              rw [Node.get?_entry otherListed step] at otherInside
              rw [resolveWithin_name listed named, inside] at placed
              rw [resolveWithin_name otherListed named, otherInside]
              split at placed
              · cases placed
              · next short =>
                rw [if_neg short]
                exact place_of_matches same links (here ++ [step]) rest kind placed
          | link target =>
              have inside := Node.kindAt_eq_link.mp kind
              have otherInside := Node.kindAt_eq_link.mp (same.within.linked _ _ kind)
              rw [Node.get?_entry listed step] at inside
              rw [Node.get?_entry otherListed step] at otherInside
              rw [resolveWithin_name listed named, inside] at placed
              rw [resolveWithin_name otherListed named, otherInside]
              simp only [reduceCtorEq, false_and, if_false, true_and] at placed ⊢
              split at placed
              · cases placed
              · next short =>
                rw [if_neg short]
                split at placed
                · cases placed
                · next open_ =>
                  rw [if_neg open_]
                  cases links with
                  | zero => cases placed
                  | succ fewer =>
                      refine place_of_matches same fewer _ _ ?_ placed
                      rw [startOf]
                      split
                      · exact Node.dir_of_dir_below there
                      · exact there
termination_by (links, path.length)

end Tree

end DirMarkers
