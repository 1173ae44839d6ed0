import DirMarkers.Proofs.Tree.WellFormed

/-!
Paths that lead to a directory. Which way such a path takes depends on the directories and links
of a tree only, and going on from its end with plain names reads the tree at the locations that
they spell.
-/

namespace DirMarkers.Tree

section

variable {top : Node} {last : LastLink} {links : Nat} {here : Location} {step : String}
  {rest : List String} {entries : Entries}

theorem resolveWithin_nil {node : Node} (there : top.get? here = some node)
    : resolveWithin top last links here [] = .found here node := by
  rw [resolveWithin.eq_def, there]
  simp [advance, Place.location]

theorem resolveWithin_stay (there : top.get? here = some (.dir entries))
    (stay : step = "" ∨ step = ".")
    : resolveWithin top last links here (step :: rest)
      = resolveWithin top last links here rest := by
  rw [resolveWithin.eq_def, resolveWithin.eq_def top last links here rest, there]
  simp [advance, stay]

theorem resolveWithin_up (there : top.get? here = some (.dir entries))
    : resolveWithin top last links here (".." :: rest)
      = resolveWithin top last links here.dropLast rest := by
  obtain ⟨node, above⟩ : ∃ node, top.get? here.dropLast = some node := by
    rcases List.eq_nil_or_concat here with rfl | ⟨init, name, rfl⟩
    · exact ⟨_, there⟩
    · rw [List.concat_eq_append] at there
      obtain ⟨around, above, _⟩ := Node.dir_of_get?_entry there
      exact ⟨_, by simpa using above⟩
  rw [resolveWithin.eq_def, resolveWithin.eq_def top last links here.dropLast rest, there, above]
  simp [advance, Place.parent, above]

/-- How a resolution goes on from a directory with a name: by the entry of that name. -/
theorem resolveWithin_name (there : top.get? here = some (.dir entries))
    (named : step ≠ "" ∧ step ≠ "." ∧ step ≠ "..")
    : resolveWithin top last links here (step :: rest)
      = if nameLimit < step.utf8ByteSize then .refused .nameTooLong
        else match Entries.find? entries step with
          | none => .missing here step rest
          | some (.link target) =>
            if last = .keep ∧ rest = [] then .found (here ++ [step]) (.link target)
            else if last = .fill ∧ rest = [""] then .refused .isDirectory
            else match links with
              | 0 => .refused .linkLoop
              | links + 1 =>
                resolveWithin top last links (startOf here target) (steps target ++ rest)
          | some _ => resolveWithin top last links (here ++ [step]) rest := by
  have entry := Node.get?_entry there step
  rw [resolveWithin.eq_def, there]
  simp only [advance, named.1, named.2.1, named.2.2, or_self, if_false, Place.location,
    List.reverse_reverse]
  by_cases long : nameLimit < step.utf8ByteSize
  · rw [if_pos long, if_pos long]
  rw [if_neg long, if_neg long]
  cases found : Entries.find? entries step with
  | none => rfl
  | some node =>
      rw [resolveWithin.eq_def top last links (here ++ [step]) rest, entry, found]
      cases node with
      | link target =>
          by_cases kept : last = .keep ∧ rest = []
          · simp only [if_pos kept]
          by_cases filled : last = .fill ∧ rest = [""]
          · simp only [if_neg kept, if_pos filled]
          · simp only [if_neg kept, if_neg filled]
            cases links <;> rfl
      | file content => simp [Place.child]
      | dir below => simp [Place.child]

theorem resolveWithin_blocked {node : Node} (there : top.get? here = some node)
    (notDir : ∀ entries, node ≠ .dir entries)
    : resolveWithin top last links here (step :: rest) = .blocked (step :: rest) := by
  rw [resolveWithin.eq_def, there]
  cases node with
  | dir entries => exact absurd rfl (notDir entries)
  | file _ => simp [advance]
  | link _ => simp [advance]

end

-----------------------------------------------------------------------------------------
-- Leading to a directory
-----------------------------------------------------------------------------------------

/-- A path leads from one directory of a tree to another within so many links. -/
inductive Leads (top : Node) : Nat → Location → List String → Location → Prop
  | done {links here} (there : top.kindAt here = some .dir) : Leads top links here [] here
  | stay {links here step rest goal} (there : top.kindAt here = some .dir)
    (idle : step = "" ∨ step = ".") (next : Leads top links here rest goal)
    : Leads top links here (step :: rest) goal
  | up {links here rest goal} (there : top.kindAt here = some .dir)
    (next : Leads top links here.dropLast rest goal)
    : Leads top links here (".." :: rest) goal
  | down {links here step rest goal} (short : step.utf8ByteSize ≤ nameLimit)
    (named : step ≠ "" ∧ step ≠ "." ∧ step ≠ "..")
    (there : top.kindAt (here ++ [step]) = some .dir)
    (next : Leads top links (here ++ [step]) rest goal)
    : Leads top links here (step :: rest) goal
  | along {links here step target rest goal} (short : step.utf8ByteSize ≤ nameLimit)
    (named : step ≠ "" ∧ step ≠ "." ∧ step ≠ "..")
    (there : top.kindAt (here ++ [step]) = some (.link target))
    (next : Leads top links (startOf here target) (steps target ++ rest) goal)
    : Leads top (links + 1) here (step :: rest) goal

theorem Leads.starts {top : Node} {links : Nat} {here goal : Location} {path : List String}
    (h : Leads top links here path goal)
    : top.kindAt here = some .dir := by
  cases h with
  | done there => exact there
  | stay there _ _ => exact there
  | up there _ => exact there
  | down _ _ there _ => exact Node.dir_of_kindAt_below there
  | along _ _ there _ => exact Node.dir_of_kindAt_below there

theorem Leads.ends {top : Node} {links : Nat} {here goal : Location} {path : List String}
    (h : Leads top links here path goal)
    : top.kindAt goal = some .dir := by
  induction h with
  | done there => exact there
  | stay _ _ _ ih => exact ih
  | up _ _ ih => exact ih
  | down _ _ _ _ ih => exact ih
  | along _ _ _ _ ih => exact ih

/-- A resolution that goes on with a name and finds a directory has followed a link of that name or
gone on from its entry.
-/
theorem found_of_name {top : Node} {links : Nat} {here goal : Location} {step : String}
    {rest : List String} {around entries : Entries}
    (there : top.get? here = some (.dir around)) (named : step ≠ "" ∧ step ≠ "." ∧ step ≠ "..")
    (found : resolveWithin top .follow links here (step :: rest) = .found goal (.dir entries))
    : step.utf8ByteSize ≤ nameLimit
      ∧ ((∃ target fewer, links = fewer + 1
            ∧ top.kindAt (here ++ [step]) = some (.link target)
            ∧ resolveWithin top .follow fewer (startOf here target) (steps target ++ rest)
              = .found goal (.dir entries))
        ∨ resolveWithin top .follow links (here ++ [step]) rest = .found goal (.dir entries)) := by
  have entry := Node.get?_entry there step
  rw [resolveWithin_name there named] at found
  by_cases long : nameLimit < step.utf8ByteSize
  · rw [if_pos long] at found
    cases found
  refine ⟨Nat.le_of_not_lt long, ?_⟩
  rw [if_neg long] at found
  cases child : Entries.find? around step with
  | none =>
      rw [child] at found
      cases found
  | some node =>
      rw [child] at found entry
      cases node with
      | file content => exact .inr found
      | dir below => exact .inr found
      | link target =>
          simp only [reduceCtorEq, false_and, if_false] at found
          cases links with
          | zero => cases found
          | succ fewer =>
              exact .inl ⟨target, fewer, rfl, Node.kindAt_eq_link.mpr entry, found⟩

/-- A resolution that finds a directory was led there. Witness: recursion on the links that may
still be followed and on the path, with one step of the resolution for its first component.
-/
theorem Leads.of_found {top : Node} {links : Nat} {here goal : Location} {path : List String}
    {entries : Entries}
    (found : resolveWithin top .follow links here path = .found goal (.dir entries))
    : Leads top links here path goal := by
  cases there : top.get? here with
  | none =>
      rw [resolveWithin.eq_def, there] at found
      cases found
  | some node =>
      cases path with
      | nil =>
          rw [resolveWithin_nil there] at found
          cases found
          exact .done (Node.kindAt_eq_dir.mpr ⟨_, there⟩)
      | cons step rest =>
          cases node with
          | file content =>
              rw [resolveWithin_blocked there (fun _ same => nomatch same)] at found
              cases found
          | link target =>
              rw [resolveWithin_blocked there (fun _ same => nomatch same)] at found
              cases found
          | dir around =>
              have kind : top.kindAt here = some .dir := Node.kindAt_eq_dir.mpr ⟨_, there⟩
              by_cases idle : step = "" ∨ step = "."
              · rw [resolveWithin_stay there idle] at found
                exact .stay kind idle (Leads.of_found found)
              by_cases up : step = ".."
              · subst up
                rw [resolveWithin_up there] at found
                exact .up kind (Leads.of_found found)
              have named : step ≠ "" ∧ step ≠ "." ∧ step ≠ ".." :=
                ⟨fun h => idle (.inl h), fun h => idle (.inr h), up⟩
              rcases found_of_name there named found with
                ⟨short, ⟨target, fewer, rfl, entry, followed⟩ | entered⟩
              · exact .along short named entry (Leads.of_found followed)
              · have next := Leads.of_found entered
                exact .down short named next.starts next
termination_by (links, path.length)

/-- The way of a path depends on directories and links only, by induction on the way. -/
theorem Leads.transport {top other : Node} {links : Nat} {here goal : Location}
    {path : List String} (h : Leads top links here path goal)
    (dirs : ∀ location, top.kindAt location = some .dir → other.kindAt location = some .dir)
    (linked : ∀ location target, top.kindAt location = some (.link target)
      → other.kindAt location = some (.link target))
    : Leads other links here path goal := by
  induction h with
  | done there => exact .done (dirs _ there)
  | stay there idle _ ih => exact .stay (dirs _ there) idle ih
  | up there _ ih => exact .up (dirs _ there) ih
  | down short named there _ ih => exact .down short named (dirs _ there) ih
  | along short named there _ ih => exact .along short named (linked _ _ there) ih

/-- No component of a path that leads to a directory ends the path early, since each is an entry
name of the tree or one of the components that name no entry.
-/
theorem Leads.noNul {top : Node} {links : Nat} {here goal : Location} {path : List String}
    (wellFormed : top.WellFormed) (h : Leads top links here path goal)
    : ∀ step ∈ path, '\x00' ∉ step.toList := by
  induction h with
  | done _ => simp
  | stay _ idle _ ih =>
      refine List.forall_mem_cons.mpr ⟨?_, ih⟩
      rcases idle with rfl | rfl <;> decide
  | up _ _ ih => exact List.forall_mem_cons.mpr ⟨by decide, ih⟩
  | down _ _ there _ ih =>
      obtain ⟨node, found, _⟩ := Option.map_eq_some_iff.mp there
      exact List.forall_mem_cons.mpr ⟨(wellFormed.name found).1.noNul, ih⟩
  | along _ _ there _ ih =>
      obtain ⟨node, found, _⟩ := Option.map_eq_some_iff.mp there
      refine List.forall_mem_cons.mpr ⟨(wellFormed.name found).1.noNul, ?_⟩
      exact fun step member => ih step (List.mem_append_right _ member)

/-- Going on along a path that leads to a directory is resolving what is left from there. A link
in last place of the first part is followed, since it is not in last place of the whole.
-/
theorem Leads.resolve_append {top : Node} {links : Nat} {here goal : Location}
    {path : List String} (h : Leads top links here path goal) (last : LastLink)
    {rest : List String} (more : last = .follow ∨ rest ≠ [] ∧ rest ≠ [""])
    : ∃ left, resolveWithin top last links here (path ++ rest)
        = resolveWithin top last left goal rest := by
  induction h with
  | done _ => exact ⟨_, rfl⟩
  | stay there idle _ ih =>
      obtain ⟨entries, there⟩ := Node.kindAt_eq_dir.mp there
      rw [List.cons_append, resolveWithin_stay there idle]
      exact ih
  | up there _ ih =>
      obtain ⟨entries, there⟩ := Node.kindAt_eq_dir.mp there
      rw [List.cons_append, resolveWithin_up there]
      exact ih
  | down short named there _ ih =>
      obtain ⟨below, child⟩ := Node.kindAt_eq_dir.mp there
      obtain ⟨entries, around, found⟩ := Node.dir_of_get?_entry child
      rw [List.cons_append, resolveWithin_name around named, if_neg (Nat.not_lt.mpr short), found]
      exact ih
  | @along links here step target tail goal short named there _ ih =>
      obtain ⟨entries, around, found⟩ := Node.dir_of_get?_entry (Node.kindAt_eq_link.mp there)
      -- Only a link in last place may be kept or filled, and more of the path follows on this one.
      have notKept : ¬ (last = .keep ∧ tail ++ rest = []) := by
        rintro ⟨rfl, empty⟩
        rcases more with follow | ⟨some, _⟩
        · cases follow
        · exact some (List.append_eq_nil_iff.mp empty).2
      have notFilled : ¬ (last = .fill ∧ tail ++ rest = [""]) := by
        rintro ⟨rfl, slash⟩
        rcases more with follow | ⟨some, other⟩
        · cases follow
        · rcases List.append_eq_singleton_iff.mp slash with ⟨_, single⟩ | ⟨_, empty⟩
          · exact other single
          · exact some empty
      rw [List.cons_append, resolveWithin_name around named, if_neg (Nat.not_lt.mpr short), found]
      simp only [if_neg notKept, if_neg notFilled]
      rw [← List.append_assoc]
      exact ih

/-- Going on along a path that leads to a directory with the name of an entry resolves to that
entry. A link there is where the path ends if it is to be kept.
-/
theorem Leads.resolve_entry {top : Node} {links : Nat} {here goal : Location} {path : List String}
    {entries : Entries} (h : Leads top links here path goal)
    (there : top.get? goal = some (.dir entries)) {name : String} (named : IsEntryName name)
    (last : LastLink)
    (ends : last = .keep ∨ ∀ target, top.kindAt (goal ++ [name]) ≠ some (.link target))
    : resolveWithin top last links here (path ++ [name])
      = if nameLimit < name.utf8ByteSize then .refused .nameTooLong
        else match top.get? (goal ++ [name]) with
          | none => .missing goal name []
          | some node => .found (goal ++ [name]) node := by
  have more : [name] ≠ [] ∧ [name] ≠ [""] :=
    ⟨List.cons_ne_nil _ _, fun same => named.ne_empty (List.singleton_inj.mp same)⟩
  obtain ⟨left, whole⟩ := h.resolve_append last (.inr more)
  have entry := Node.get?_entry there name
  rw [whole, resolveWithin_name there ⟨named.ne_empty, named.ne_dot, named.ne_dots⟩, entry]
  cases found : Entries.find? entries name with
  | none => rfl
  | some node =>
      rw [found] at entry
      cases node with
      | link target =>
          have kept := ends.resolve_right fun notLink =>
            notLink target (Node.kindAt_eq_link.mpr entry)
          simp only [kept, true_and, if_true]
      | file _ => simp only [resolveWithin_nil entry]
      | dir _ => simp only [resolveWithin_nil entry]

/-- Going down through directories of a well-formed tree follows no link, by induction on their
names.
-/
theorem resolveWithin_descend {top : Node} (wellFormed : top.WellFormed) (last : LastLink)
    (links : Nat) {here : Location} {names rest : List String}
    (there : top.kindAt (here ++ names) = some .dir)
    : resolveWithin top last links here (names ++ rest)
      = resolveWithin top last links (here ++ names) rest := by
  induction names generalizing here with
  | nil => simp
  | cons name names ih =>
      have goal : top.kindAt (here ++ [name] ++ names) = some .dir := by simpa using there
      obtain ⟨entries, child⟩ := Node.kindAt_eq_dir.mp (Node.dir_of_dir_below goal)
      obtain ⟨entries, around, found⟩ := Node.dir_of_get?_entry child
      obtain ⟨named, short⟩ := wellFormed.name child
      rw [List.cons_append,
        resolveWithin_name around ⟨named.ne_empty, named.ne_dot, named.ne_dots⟩,
        if_neg (Nat.not_lt.mpr short), found]
      simpa using ih goal

end DirMarkers.Tree
