import GrammarEmbed.Proofs.MadeDirectories

namespace GrammarEmbed.FileTree

open GrammarEmbed.Path

variable {tree later : FileTree} {path : String} {place : List String}
variable {output : String} {out dirs : List String} {name : String}

/-- Where a tree changes when a file is written: in the directory if the file is new. -/
def changedAt (tree : FileTree) (place : List String) : List String :=
  if (tree.entry? place).isSome then place else place.dropLast

/-- What becomes of a text that is to be written to a slot. -/
def putIn (tree : FileTree) (path text : String) : Option (List String) → Except IoFault FileTree
  | none => .error .isDirectory
  | some place =>
    if endsInSlash path = true ∨ tree.entry? place = some .directory then .error .isDirectory
    else if tree.refuses .write (tree.changedAt place) then .error .permissionDenied
    else .ok (tree.set place (.file (.text text)))

theorem write_eq (text : String) :
    tree.write path text = (tree.slot? path).bind (tree.putIn path text) := by
  unfold write
  cases tree.slot? path with
  | error => rfl
  | ok slot =>
    cases slot with
    | none => rfl
    | some place =>
      simp only [bind, Except.bind, putIn, Bool.or_eq_true, beq_iff_eq]
      split
      · rfl
      · rw [← changedAt]
        cases tree.refuses .write (tree.changedAt place) <;> rfl

theorem write_at {front : List String} (leads : tree.Leads path place)
    (split : names path = front ++ [name]) (named : IsName name) (plain : endsInSlash path = false)
    (text : String) :
    tree.write path text =
      if tree.entry? place = some .directory then .error .isDirectory
      else if tree.refuses .write (tree.changedAt place) then .error .permissionDenied
      else .ok (tree.set place (.file (.text text))) := by
  rw [write_eq, slot_eq_follow leads.filled split named, leads.followed]
  simp [Except.map, Except.bind, putIn, plain]

def targetOf (output : String) (rel : List String) : String :=
  Path.join output (joinAll "" rel)

theorem names_targetOf {rel : List String} (named : ∀ part ∈ rel, IsName part) :
    names (targetOf output rel) = names output ++ rel := by
  have segments : ∀ part ∈ rel, IsSegment part := fun part member => (named part member).1
  rw [targetOf, names_join output (isAbsolute_joinAll "" segments), names_joinAll "" segments]
  rfl

theorem joinAll_concat_ne_empty (directory : String)
    (named : ∀ part ∈ dirs ++ [name], IsName part) : joinAll directory (dirs ++ [name]) ≠ "" := by
  rw [joinAll_concat]
  exact join_ne_empty _ (named name (by simp)).filled

theorem targetOf_ne_empty (named : ∀ part ∈ dirs ++ [name], IsName part) :
    targetOf output (dirs ++ [name]) ≠ "" :=
  join_ne_empty output (joinAll_concat_ne_empty "" named)

theorem endsInSlash_targetOf (named : ∀ part ∈ dirs ++ [name], IsName part) :
    endsInSlash (targetOf output (dirs ++ [name])) = false := by
  have last : IsName name := named name (by simp)
  rw [targetOf, endsInSlash_join output (joinAll_concat_ne_empty "" named), joinAll_concat,
    endsInSlash_join _ last.filled, endsInSlash_segment last.1]

/-- The path leads to the file if the directories above it are there. -/
theorem Leads.targetOf (leads : tree.Leads output out)
    (named : ∀ part ∈ dirs ++ [name], IsName part)
    (opened : ∀ above, above <+: dirs → tree.entry? (out ++ above) = some .directory) :
    tree.Leads (targetOf output (dirs ++ [name])) (out ++ (dirs ++ [name])) where
  filled := targetOf_ne_empty named
  followed := by
    rw [names_targetOf named, follow_append, leads.followed]
    exact follow_opened named opened

/-- The path of the directory that a file below a directory needs. -/
def homeOf (output : String) (dirs : List String) : String :=
  spell (isAbsolute output) (steps output ++ dirs)

theorem parent_targetOf (named : ∀ part ∈ dirs ++ [name], IsName part) :
    parent? (targetOf output (dirs ++ [name])) = some (homeOf output dirs) := by
  have segments : ∀ part ∈ dirs ++ [name], IsSegment part := fun part member =>
    (named part member).1
  have moving : (dirs ++ [name]).filter (fun part => part != ".") = dirs ++ [name] :=
    List.filter_eq_self.mpr fun part member => by simpa using (named part member).notHere
  have split : steps (targetOf output (dirs ++ [name])) = steps output ++ dirs ++ [name] := by
    rw [steps, names_targetOf named, List.filter_append, moving, List.append_assoc]
    rfl
  have start : isAbsolute (targetOf output (dirs ++ [name])) = isAbsolute output :=
    isAbsolute_join output (isAbsolute_joinAll "" segments)
  rw [parent_eq (targetOf_ne_empty named) (by simp [split]), start, split, List.dropLast_concat]
  rfl

theorem createDirectories_homeOf (named : ∀ part ∈ dirs, IsName part) :
    tree.createDirectories (homeOf output dirs) =
      tree.createAll (climb (isAbsolute output) (steps output ++ dirs)) := by
  have upper : ∀ part ∈ steps output, IsSegment part := fun _ => isSegment_of_mem_steps
  have segments := isSegment_below upper named
  have moving : "." ∉ steps output ++ dirs := by
    intro member
    rcases List.mem_append.mp member with above | below
    · simpa using (List.mem_filter.mp above).2
    · exact (named "." below).notHere rfl
  rw [createDirectories, lineage_eq, homeOf, isAbsolute_spell segments,
    steps_spell segments moving]

/-- Writes a file, or leaves the tree as it is. -/
def put (tree : FileTree) (path text : String) : Except IoFault Unit × FileTree :=
  match tree.write path text with
  | .ok later => (.ok (), later)
  | .error fault => (.error fault, tree)

/-- Writes a file after its directories are made. -/
def deliver (tree : FileTree) (parent path text : String) : Except IoFault Unit × FileTree :=
  match tree.createDirectories parent with
  | (.error fault, later) => (.error fault, later)
  | (.ok _, later) => later.put path text

theorem write_ok {text : String} (success : tree.write path text = .ok later) :
    ∃ place name, IsName name ∧ tree.entry? place = some .directory ∧
      tree.entry? (place ++ [name]) ≠ some .directory ∧
      (tree.entry? (place ++ [name]) = none → tree.refuses .write place = false) ∧
      later = tree.set (place ++ [name]) (.file (.text text)) := by
  rw [write_eq] at success
  cases given : tree.slot? path with
  | error => simp [given, Except.bind] at success
  | ok slot =>
    cases slot with
    | none => simp [given, Except.bind, putIn] at success
    | some place =>
      obtain ⟨above, name, named, directory, rfl, -⟩ := slot_eq_some given
      simp only [given, Except.bind, putIn] at success
      split at success
      · cases success
      · rename_i free
        split at success
        · cases success
        · rename_i allowed
          cases success
          refine ⟨above, name, named, directory, fun taken => free (.inr taken), ?_, rfl⟩
          intro nothing
          simpa [changedAt, nothing] using allowed

/-- What holds of directories that are made and of a file that is put holds of a delivery. -/
theorem deliver_run (related : FileTree → FileTree → Prop)
    (trans : ∀ {tree later last}, related tree later → related later last → related tree last)
    (create : ∀ tree path, related tree (FileTree.createDirectories tree path).2)
    (put : ∀ tree path text, related tree (FileTree.put tree path text).2)
    (tree : FileTree) (parent path text : String) :
    related tree (tree.deliver parent path text).2 := by
  have made := create tree parent
  unfold deliver
  split
  · rename_i created
    rwa [created] at made
  · rename_i created
    rw [created] at made
    exact trans made (put _ path text)

theorem WellFormed.deliver (wellFormed : WellFormed tree) (parent path text : String) :
    WellFormed (tree.deliver parent path text).2 := by
  refine deliver_run (fun tree later => WellFormed tree → WellFormed later)
    (fun first second => second ∘ first) (fun _ _ start => start.createAll _) ?_ tree parent path
    text wellFormed
  intro tree path text start
  unfold put
  split
  · rename_i wrote
    obtain ⟨place, name, named, directory, free, -, rfl⟩ := write_ok wrote
    exact start.set named directory fun taken => absurd taken free
  · exact start

theorem permitted_deliver (tree : FileTree) (parent path text : String) :
    Permitted tree (tree.deliver parent path text).2 := by
  refine deliver_run Permitted Permitted.trans (fun tree _ => permitted_createAll tree _) ?_ tree
    parent path text
  intro tree path text
  unfold put
  split
  · rename_i wrote
    obtain ⟨place, name, -, -, -, allowed, rfl⟩ := write_ok wrote
    refine .set (by simp) fun nothing => ?_
    rw [List.dropLast_concat]
    exact allowed nothing
  · exact .refl tree

structure Writable (tree : FileTree) (out rel : List String) : Prop where
  /-- The directories that it needs are there or can be made. -/
  way : ∀ above, above ≠ [] → above <+: rel → above ≠ rel → ¬ tree.Bars (out ++ above)
  noDirectory : tree.entry? (out ++ rel) ≠ some .directory
  /-- A new file may be added to its directory. -/
  added : tree.entry? (out ++ rel) = none → tree.refuses .write (out ++ rel).dropLast = false
  accepts : tree.refuses .write (out ++ rel) = false

/-- What becomes of a tree when a file is delivered to it. -/
structure Delivered (tree : FileTree) (out rel : List String) (text : String)
    (done : Except IoFault Unit × FileTree) : Prop where
  ok_iff : done.1 = .ok () ↔ tree.Writable out rel
  written : done.1 = .ok () → FileTree.entry? done.2 (out ++ rel) = some (.file (.text text))
  frame : ∀ place, FileTree.entry? done.2 place = tree.entry? place ∨
    tree.entry? place = none ∧ FileTree.entry? done.2 place = some .directory ∧
      (∃ above, above ≠ [] ∧ above ≠ rel ∧ above <+: rel ∧ place = out ++ above) ∨
    place = out ++ rel ∧ done.1 = .ok ()

theorem writable_iff (wellFormed : tree.WellFormed) :
    tree.Writable out (dirs ++ [name]) ↔
      tree.Unblocked out dirs ∧ tree.entry? (out ++ (dirs ++ [name])) ≠ some .directory ∧
        tree.refuses .write (tree.changedAt (out ++ (dirs ++ [name]))) = false := by
  constructor
  · rintro ⟨way, noDirectory, added, accepts⟩
    refine ⟨fun above filled front => ?_, noDirectory, ?_⟩
    · refine way above filled (front.trans (List.prefix_append _ _)) ?_
      rintro rfl
      exact absurd front.length_le (by simp)
    · unfold changedAt
      split
      · exact accepts
      · rename_i nothing
        exact added (Option.not_isSome_iff_eq_none.mp nothing)
  · rintro ⟨free, noDirectory, allowed⟩
    refine ⟨fun above filled front other => ?_, noDirectory, fun nothing => ?_, ?_⟩
    · exact free above filled ((List.prefix_concat_iff.mp front).resolve_left other)
    · simpa [changedAt, nothing] using allowed
    · cases stands : tree.entry? (out ++ (dirs ++ [name])) with
      | none => exact wellFormed.not_refuses stands .write
      | some => simpa [changedAt, stands] using allowed

theorem not_along_concat : ¬ Along out dirs (out ++ (dirs ++ [name])) := by
  rintro ⟨above, -, front, same⟩
  obtain rfl := List.append_cancel_left same
  exact absurd front.length_le (by simp)

theorem Along.exists_above (along : Along out dirs place) :
    ∃ above, above ≠ [] ∧ above ≠ dirs ++ [name] ∧ above <+: dirs ++ [name] ∧
      place = out ++ above := by
  obtain ⟨above, filled, front, same⟩ := along
  refine ⟨above, filled, ?_, front.trans (List.prefix_append _ _), same⟩
  rintro rfl
  exact absurd front.length_le (by simp)

theorem Delivered.of_error {fault : IoFault} {text : String}
    (grown : Grown (Along out dirs) tree later)
    (stuck : ¬ tree.Writable out (dirs ++ [name])) :
    Delivered tree out (dirs ++ [name]) text (.error fault, later) where
  ok_iff := ⟨nofun, fun free => absurd free stuck⟩
  written := nofun
  frame := by
    intro place
    rcases grown place with same | ⟨nothing, directory, along⟩
    · exact .inl same
    · exact .inr (.inl ⟨nothing, directory, along.exists_above⟩)

theorem Delivered.of_set (text : String) (grown : Grown (Along out dirs) tree later)
    (free : tree.Writable out (dirs ++ [name])) :
    Delivered tree out (dirs ++ [name]) text
      (.ok (), later.set (out ++ (dirs ++ [name])) (.file (.text text))) where
  ok_iff := ⟨fun _ => free, fun _ => rfl⟩
  written := by
    intro _
    rw [entry_set (by simp), if_pos rfl]
  frame := by
    intro place
    by_cases target : place = out ++ (dirs ++ [name])
    · exact .inr (.inr ⟨target, rfl⟩)
    · rw [entry_set (by simp), if_neg target]
      rcases grown place with old | ⟨nothing, directory, here⟩
      · exact .inl old
      · exact .inr (.inl ⟨nothing, directory, here.exists_above⟩)

theorem delivered_deliver (wellFormed : tree.WellFormed) (leads : tree.Leads output out)
    (directory : tree.entry? out = some .directory)
    (named : ∀ part ∈ dirs ++ [name], IsName part) (text : String) :
    Delivered tree out (dirs ++ [name]) text
      (tree.deliver (homeOf output dirs) (targetOf output (dirs ++ [name])) text) := by
  have upper : ∀ part ∈ dirs, IsName part := fun part member =>
    named part (List.mem_append_left _ member)
  have along : MadeAlong tree out dirs (tree.createDirectories (homeOf output dirs)) := by
    rw [createDirectories_homeOf upper]
    exact createAll_below (fun _ => isSegment_of_mem_steps) (follow_steps leads.followed) directory
      upper
  have permitted : Permitted tree (tree.createDirectories (homeOf output dirs)).2 :=
    permitted_createAll tree _
  have writable : tree.Writable out (dirs ++ [name]) ↔ _ := writable_iff wellFormed
  unfold deliver
  cases made : tree.createDirectories (homeOf output dirs) with
  | mk result later =>
    rw [made] at along permitted
    cases result with
    | error fault =>
      refine .of_error along.grown fun free => ?_
      cases along.ok_iff.mpr (writable.mp free).1
    | ok =>
      have free : tree.Unblocked out dirs := along.ok_iff.mp rfl
      have same : later.entry? (out ++ (dirs ++ [name])) = tree.entry? (out ++ (dirs ++ [name])) :=
        (along.grown _).resolve_right fun ⟨_, _, here⟩ => not_along_concat here
      have reaches : later.Leads (targetOf output (dirs ++ [name])) (out ++ (dirs ++ [name])) :=
        (along.grown.keepsDirectories.leads leads).targetOf named (along.made rfl)
      have split : names (targetOf output (dirs ++ [name])) = names output ++ dirs ++ [name] := by
        rw [names_targetOf named, List.append_assoc]
      have changed : later.refuses .write (later.changedAt (out ++ (dirs ++ [name]))) =
          tree.refuses .write (tree.changedAt (out ++ (dirs ++ [name]))) := by
        rw [refuses_congr permitted.refused, changedAt, changedAt, same]
      simp only [put, write_at reaches split (named name (by simp)) (endsInSlash_targetOf named)]
      rw [same, changed]
      by_cases taken : tree.entry? (out ++ (dirs ++ [name])) = some .directory
      · rw [if_pos taken]
        exact .of_error along.grown fun free => (writable.mp free).2.1 taken
      · rw [if_neg taken]
        cases refused : tree.refuses .write (tree.changedAt (out ++ (dirs ++ [name]))) with
        | true =>
          refine .of_error along.grown fun free => ?_
          cases refused.symm.trans (writable.mp free).2.2
        | false => exact .of_set text along.grown (writable.mpr ⟨free, taken, refused⟩)

end GrammarEmbed.FileTree
