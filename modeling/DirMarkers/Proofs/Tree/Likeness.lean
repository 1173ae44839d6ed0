import DirMarkers.Proofs.Tree.Amendment

/-!
Trees that are alike but for the files of one name: such files may come, go and change, while every
other file, every link and every directory stays.
-/

namespace DirMarkers

namespace Node

/-- At a location there is a file, or nothing. -/
def HoldsNoMoreThanFile (tree : Node) (location : Location) : Prop :=
  ∀ kind, tree.kindAt location = some kind → ∃ content, kind = .file content

/-- Two trees differ in files of one name only. -/
def AlikeBut (name : String) (left right : Node) : Prop :=
  ∀ location, left.kindAt location = right.kindAt location
    ∨ (∃ around, location = around ++ [name])
      ∧ left.HoldsNoMoreThanFile location ∧ right.HoldsNoMoreThanFile location

namespace AlikeBut

variable {name : String} {left middle right : Node}

theorem refl (name : String) (tree : Node) : AlikeBut name tree tree :=
  fun _ => .inl rfl

theorem symm (h : AlikeBut name left right) : AlikeBut name right left := by
  intro location
  rcases h location with same | ⟨named, first, second⟩
  · exact .inl same.symm
  · exact .inr ⟨named, second, first⟩

theorem trans (hl : AlikeBut name left middle) (hr : AlikeBut name middle right)
    : AlikeBut name left right := by
  intro location
  rcases hl location with same | ⟨named, first, second⟩
  · rcases hr location with next | ⟨named, third, fourth⟩
    · exact .inl (same.trans next)
    · exact .inr ⟨named, fun kind found => third kind (same ▸ found), fourth⟩
  · rcases hr location with next | ⟨_, _, fourth⟩
    · exact .inr ⟨named, first, fun kind found => second kind (next ▸ found)⟩
    · exact .inr ⟨named, first, fourth⟩

/-- Whatever is no file is at the same locations in both trees. -/
theorem kindAt (h : AlikeBut name left right) {location : Location} {kind : Kind}
    (there : left.kindAt location = some kind) (notFile : ∀ content, kind ≠ .file content)
    : right.kindAt location = some kind := by
  rcases h location with same | ⟨_, file, _⟩
  · exact same.symm.trans there
  · obtain ⟨content, rfl⟩ := file kind there
    exact absurd rfl (notFile content)

theorem dir (h : AlikeBut name left right) {location : Location}
    (there : left.kindAt location = some .dir)
    : right.kindAt location = some .dir :=
  h.kindAt there fun _ same => nomatch same

theorem link (h : AlikeBut name left right) {location : Location} {target : String}
    (there : left.kindAt location = some (.link target))
    : right.kindAt location = some (.link target) :=
  h.kindAt there fun _ same => nomatch same

/-- Where one tree holds no more than a file, the other one holds no more either. -/
theorem holdsNoMoreThanFile (h : AlikeBut name left right) {location : Location}
    (free : left.HoldsNoMoreThanFile location)
    : right.HoldsNoMoreThanFile location := by
  rcases h location with same | ⟨_, _, free⟩
  · exact fun kind found => free kind (same.trans found)
  · exact free

/-- An entry of another name is the same in both trees. -/
theorem other (h : AlikeBut name left right) {around : Location} {entry : String}
    (different : entry ≠ name)
    : left.kindAt (around ++ [entry]) = right.kindAt (around ++ [entry]) := by
  rcases h (around ++ [entry]) with same | ⟨⟨beside, placed⟩, _, _⟩
  · exact same
  · exact absurd (List.append_singleton_inj.mp placed).2 different

/-- Directories at the same location of trees that are alike are alike. -/
theorem inside (h : AlikeBut name left right) {location : Location} {entries others : Entries}
    (leftThere : left.get? location = some (.dir entries))
    (rightThere : right.get? location = some (.dir others))
    : AlikeBut name (.dir entries) (.dir others) := by
  intro below
  rcases List.eq_nil_or_concat below with rfl | ⟨init, last, rfl⟩
  · exact .inl rfl
  rw [List.concat_eq_append]
  have leftKind := Node.kindAt_append leftThere (init ++ [last])
  have rightKind := Node.kindAt_append rightThere (init ++ [last])
  rcases h (location ++ (init ++ [last])) with same | ⟨⟨around, placed⟩, first, second⟩
  · exact .inl (leftKind.symm.trans (same.trans rightKind))
  · rw [← List.append_assoc] at placed
    obtain rfl := (List.append_singleton_inj.mp placed).2
    exact .inr ⟨⟨init, rfl⟩, fun kind found => first kind (leftKind.trans found),
      fun kind found => second kind (rightKind.trans found)⟩

/-- A change at one location leaves a tree alike if only a file can be there before and after. -/
theorem of_change {around : Location}
    (kept : ∀ location, location ≠ around ++ [name] → left.kindAt location = right.kindAt location)
    (before : left.HoldsNoMoreThanFile (around ++ [name]))
    (after : right.HoldsNoMoreThanFile (around ++ [name]))
    : AlikeBut name left right := by
  intro location
  by_cases here : location = around ++ [name]
  · subst here
    exact .inr ⟨⟨around, rfl⟩, before, after⟩
  · exact .inl (kept location here)

end AlikeBut

section

variable {tree : Node} {around : Location} {entries : Entries} {name : String}

theorem HoldsNoMoreThanFile.notDir (h : tree.HoldsNoMoreThanFile (around ++ [name]))
    : tree.kindAt (around ++ [name]) ≠ some .dir := by
  intro there
  obtain ⟨content, same⟩ := h _ there
  cases same

theorem alikeBut_put_file (there : tree.get? around = some (.dir entries))
    (free : tree.HoldsNoMoreThanFile (around ++ [name])) (content : ByteArray)
    : AlikeBut name tree (Node.put (.file content) tree (around ++ [name])) := by
  have kinds := kindAt_put_file there free.notDir content
  refine .of_change (fun location other => ?_) free fun kind found => ?_
  · rw [kinds, if_neg other]
  · rw [kinds, if_pos rfl] at found
    exact ⟨content, (Option.some.inj found).symm⟩

theorem alikeBut_erase (there : tree.get? around = some (.dir entries))
    (free : tree.HoldsNoMoreThanFile (around ++ [name]))
    : AlikeBut name tree (tree.erase (around ++ [name])) := by
  have kinds := kindAt_erase there free.notDir
  refine .of_change (fun location other => ?_) free fun kind found => ?_
  · rw [kinds, if_neg other]
  · rw [kinds, if_pos rfl] at found
    cases found

end

end Node

end DirMarkers
