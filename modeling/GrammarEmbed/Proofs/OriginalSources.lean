import GrammarEmbed.Proofs.WalkCourse

/-!
Which courses read nothing but what stood there at first. An output is read again only if it lies
ahead of the walk. That takes an output directory above the root, and then it is the only way in
which a walk can come to something else than it was started on.
-/

namespace GrammarEmbed.Walk

variable {walk : Walk} {yields : Yields} {passage : Passage} {passages prior : List Passage}
  {tree last : FileTree} {dir names rel : List String} {levels : Nat}

/-- A walk that is at the first place has the second one ahead: it parts from the first at a greater
name, and that name is in the tree. -/
def Ahead (walk : Walk) (rel other : List String) : Prop :=
  ∃ front first before second after,
    rel = front ++ first :: before ∧ other = front ++ second :: after ∧ first < second ∧
      (walk.tree.entry? (walk.root ++ (front ++ [second]))).isSome

/-- The passage read a file that was there at first, and as it was then. -/
def Original (walk : Walk) (passage : Passage) : Prop :=
  ∃ content, walk.tree.entry? (walk.root ++ passage.rel) = some (.file content) ∧
    passage.read = walk.tree.textOf (walk.root ++ passage.rel) content

/-- If the output of the passage lies ahead of the walk, it reads as what was there at first. -/
def Harmless (walk : Walk) (passage : Passage) : Prop :=
  ∀ above rel code, above ≠ [] → walk.root = walk.out ++ above → passage.rel = above ++ rel →
    passage.code? = some code → walk.Ahead passage.rel rel →
    ∃ content, walk.tree.entry? (walk.root ++ rel) = some (.file content) ∧
      walk.tree.textOf (walk.root ++ rel) (.text code) = walk.tree.textOf (walk.root ++ rel) content

section Overlaps

theorem ahead_of_precedes {known : List String} (wellFormed : walk.tree.WellFormed)
    (precedes : Precedes rel known) (stands : (walk.tree.entry? (walk.root ++ known)).isSome)
    (rest : List String) : walk.Ahead rel (known ++ rest) := by
  obtain ⟨front, first, before, second, after, rfl, rfl, less⟩ := precedes
  obtain ⟨entry, there⟩ := Option.isSome_iff_exists.mp stands
  refine ⟨front, first, before, second, after ++ rest, rfl, by simp, less, ?_⟩
  exact wellFormed.isSome_of_prefix there ⟨after, by simp⟩

/-- A walk that comes to an output later has it in the root below the output directory, or in the
output directory below the root. -/
theorem overlap {written : List String} (precedes : Precedes written rel)
    (same : walk.out ++ written = walk.root ++ rel) :
    (∃ above, above ≠ [] ∧ walk.root = walk.out ++ above ∧ written = above ++ rel) ∨
      ∃ below, below ≠ [] ∧ walk.out = walk.root ++ below ∧ rel = below ++ written := by
  rcases List.append_eq_append_iff.mp same with ⟨above, root, split⟩ | ⟨below, out, split⟩
  · refine .inl ⟨above, ?_, root, split⟩
    rintro rfl
    exact precedes.ne split
  · refine .inr ⟨below, ?_, out, split⟩
    rintro rfl
    exact precedes.ne split.symm

theorem Enters.not_output {below : List String} (enters : walk.Enters dir) (filled : below ≠ [])
    (front : below <+: dir) : walk.out ≠ walk.root ++ below := by
  rcases List.eq_nil_or_concat below with rfl | ⟨above, name, rfl⟩
  · exact absurd rfl filled
  · rw [List.concat_eq_append] at front ⊢
    exact (enters above name front).2.2.symm

end Overlaps

/-- The walk has some passages behind it and comes to the names of a directory. -/
structure Before (walk : Walk) (yields : Yields) (prior : List Passage) (dir names : List String)
    (tree : FileTree) : Prop where
  chain : walk.Chain yields walk.tree prior tree
  enters : walk.Enters dir
  increasing : names.Pairwise (· < ·)
  /-- The names were there at first. -/
  known : ∀ name ∈ names, (walk.tree.entry? (walk.root ++ (dir ++ [name]))).isSome
  behind : ∀ passage ∈ prior, ∀ name ∈ names, Precedes passage.rel (dir ++ [name])

namespace Before

variable {name : String} {middle : FileTree} {more : List Passage} {content : Content}

/-- With nothing but harmless passages behind it, the walk reads what was there at first. -/
theorem original (before : walk.Before yields prior dir (name :: names) tree)
    (wellFormed : walk.tree.WellFormed) (harmless : ∀ passage ∈ prior, walk.Harmless passage)
    (file : tree.entry? (walk.root ++ (dir ++ [name])) = some (.file content)) :
    ∃ first, walk.tree.entry? (walk.root ++ (dir ++ [name])) = some (.file first) ∧
      walk.tree.textOf (walk.root ++ (dir ++ [name])) content =
        walk.tree.textOf (walk.root ++ (dir ++ [name])) first := by
  rw [← FileTree.content_eq_some_iff, before.chain.content] at file
  rcases heldAfter_cases prior (walk.tree.content? (walk.root ++ (dir ++ [name]))) with
    same | ⟨writer, member, code, ⟨place, wrote⟩, held⟩
  · rw [same, FileTree.content_eq_some_iff] at file
    exact ⟨content, file, rfl⟩
  · have precedes := before.behind writer member name List.mem_cons_self
    obtain rfl := Option.some.inj (held.symm.trans file)
    rcases overlap precedes place with ⟨above, filled, root, split⟩ | ⟨below, filled, out, split⟩
    · refine harmless writer member above _ code filled root split wrote ?_
      simpa using ahead_of_precedes wellFormed precedes (before.known name List.mem_cons_self) []
    · exfalso
      obtain ⟨front, first, inner, -, -, here, -⟩ := precedes
      have proper : below ≠ dir ++ [name] := by
        rintro rfl
        simp [here] at split
      have way := (List.prefix_concat_iff.mp ⟨writer.rel, split.symm⟩).resolve_left proper
      exact before.enters.not_output filled way out

/-- With nothing but harmless passages behind it, the walk lists what was there at first. -/
theorem enter (before : walk.Before yields prior dir (name :: names) tree)
    (wellFormed : walk.tree.WellFormed) (output : walk.tree.entry? walk.out = some .directory)
    (harmless : ∀ passage ∈ prior, walk.Harmless passage)
    (enters : walk.Enters (dir ++ [name])) :
    walk.Before yields prior (dir ++ [name]) (tree.namesAt (walk.root ++ (dir ++ [name])))
      tree where
  chain := before.chain
  enters := enters
  increasing := FileTree.sorted_namesAt (before.chain.wellFormed wellFormed).distinct
  known := by
    intro next listed
    rw [FileTree.mem_namesAt, List.append_assoc] at listed
    rcases before.chain.added listed with first | ⟨writer, member, wrote, rest, same⟩
    · exact first
    · have precedes := before.behind writer member name List.mem_cons_self
      obtain ⟨code, wrote⟩ := Option.isSome_iff_exists.mp wrote
      have here : walk.out ++ writer.rel = walk.root ++ (dir ++ [name] ++ next :: rest) := by
        simpa using same.symm
      rcases overlap (precedes.append _) here with
        ⟨above, filled, root, split⟩ | ⟨below, filled, out, split⟩
      · obtain ⟨_, first, -⟩ := harmless writer member above _ code filled root split wrote
          (ahead_of_precedes wellFormed precedes (before.known name List.mem_cons_self) _)
        exact wellFormed.isSome_of_prefix first ⟨rest, by simp⟩
      · -- the output directory lies deeper, so the name leads to it
        have one : below <+: dir ++ [name] ++ next :: rest := ⟨writer.rel, split.symm⟩
        have other : dir ++ [name] ++ [next] <+: dir ++ [name] ++ next :: rest := ⟨rest, by simp⟩
        have deeper : dir ++ [name] ++ [next] <+: below := by
          rcases List.prefix_or_prefix_of_prefix one other with inside | outside
          · rcases List.prefix_concat_iff.mp inside with rfl | above
            · exact List.prefix_rfl
            · exact absurd out (enters.not_output filled above)
          · exact outside
        refine wellFormed.isSome_of_prefix output ?_
        rw [out]
        exact (List.prefix_append_right_inj walk.root).mpr (by simpa using deeper)
  behind := by
    intro passage member next _
    exact (before.behind passage member name List.mem_cons_self).append [next]

theorem tail (before : walk.Before yields prior dir (name :: names) tree)
    (chain : walk.Chain yields tree more middle)
    (below : ∀ passage ∈ more, ∃ rest, passage.rel = dir ++ name :: rest) :
    walk.Before yields (prior ++ more) dir names middle where
  chain := before.chain.append chain
  enters := before.enters
  increasing := before.increasing.of_cons
  known := fun other listed => before.known other (List.mem_cons_of_mem _ listed)
  behind := by
    intro passage member other listed
    rcases List.mem_append.mp member with old | new
    · exact before.behind passage old other (List.mem_cons_of_mem _ listed)
    · obtain ⟨rest, split⟩ := below passage new
      exact ⟨dir, name, rest, other, [], split, rfl,
        List.rel_of_pairwise_cons before.increasing listed⟩

end Before

/-- A course of harmless passages reads the files that were there at first. -/
theorem Course.original (course : walk.Course yields levels dir names tree passages last)
    (wellFormed : walk.tree.WellFormed) (output : walk.tree.entry? walk.out = some .directory)
    (before : walk.Before yields prior dir names tree)
    (harmless : ∀ passage ∈ prior ++ passages, walk.Harmless passage) :
    ∀ passage ∈ passages, walk.Original passage := by
  induction course generalizing prior with
  | done => exact List.forall_mem_nil _
  | skipped _ _ ih =>
    have onward := before.tail .nil (List.forall_mem_nil _)
    rw [List.append_nil] at onward
    exact ih onward harmless
  | entered visible _ _ notPackages notOutput inner _ deeper later =>
    have behind : ∀ passage ∈ prior, walk.Harmless passage := fun passage old =>
      harmless passage (List.mem_append_left _ old)
    have enters := before.enters.concat visible notPackages notOutput
    intro passage member
    rcases List.mem_append.mp member with below | after
    · have inside := before.enter wellFormed output behind enters
      refine deeper inside (fun other here => ?_) passage below
      refine harmless other ?_
      rcases List.mem_append.mp here with old | new
      · exact List.mem_append_left _ old
      · exact List.mem_append_right _ (List.mem_append_left _ new)
    · refine later (before.tail inner.chain fun other here => ?_) ?_ passage after
      · obtain ⟨next, -, rest, split, -⟩ := inner.exists_name here
        exact ⟨next :: rest, by simpa using split⟩
      · rwa [List.append_assoc]
  | @passed _ _ _ name _ _ _ first more _ _ here passes _ ih =>
    intro passage member
    rcases List.mem_cons.mp member with rfl | after
    · obtain ⟨content, file, read⟩ := passes.read
      rw [FileTree.textOf_congr before.chain.permitted.refused] at read
      rw [Original, read, here]
      rw [here] at file
      exact before.original wellFormed
        (fun other old => harmless other (List.mem_append_left _ old)) file
    · refine ih (before.tail (.cons passes .nil) fun other new => ?_) ?_ passage after
      · rw [List.mem_singleton.mp new, here]
        exact ⟨[], rfl⟩
      · simpa using harmless

/-- What was admitted below the root is admitted where its output goes, if that is in the root. -/
theorem Admits.suffix {above : List String} {content : Content}
    (admitted : walk.Admits (above ++ rel)) (root : walk.root = walk.out ++ above) (rest : rel ≠ [])
    (file : tree.entry? (walk.root ++ rel) = some (.file content)) :
    Walk.Admits { walk with tree := tree } rel where
  file := ⟨content, file⟩
  visible := fun name member => admitted.visible name (List.mem_append_right _ member)
  entered := by
    intro dirs name front proper
    refine ⟨?_, ?_⟩
    · refine (admitted.entered (above ++ dirs) name ?_ ?_).1
      · rw [List.append_assoc]
        exact (List.prefix_append_right_inj above).mpr front
      · simpa using proper
    · intro same
      have length := congrArg List.length same
      rw [root] at length
      simp only [List.length_append, List.length_singleton] at length
      omega
  source := by
    obtain ⟨dirs, name, split, source⟩ := admitted.source
    rcases List.eq_nil_or_concat rel with rfl | ⟨front, last, rfl⟩
    · exact absurd rfl rest
    · rw [List.concat_eq_append, ← List.append_assoc] at split
      obtain ⟨-, rfl⟩ := List.append_inj' split rfl |>.imp_right List.singleton_inj.mp
      exact ⟨front, last, List.concat_eq_append, source⟩

section Order

variable {other : Passage} {before after : List Passage}

theorem mem_before
    (sorted : (before ++ other :: after).Pairwise fun one next => Precedes one.rel next.rel)
    (member : passage ∈ before ++ other :: after) (precedes : Precedes passage.rel other.rel) :
    passage ∈ before := by
  rcases List.mem_append.mp member with front | back
  · exact front
  · exfalso
    rcases List.mem_cons.mp back with rfl | later
    · exact precedes.ne rfl
    · have behind := List.rel_of_pairwise_cons (List.pairwise_append.mp sorted).2.1 later
      exact List.lt_irrefl _ (List.lt_trans precedes.lt behind.lt)

theorem eq_of_rel_eq (sorted : passages.Pairwise fun one next => Precedes one.rel next.rel)
    (member : passage ∈ passages) (also : other ∈ passages) (same : passage.rel = other.rel) :
    passage = other := by
  obtain ⟨front, back, rfl⟩ := List.append_of_mem also
  obtain ⟨-, later, earlier⟩ := List.pairwise_append.mp sorted
  rcases List.mem_append.mp member with old | new
  · exact absurd same (earlier passage old other List.mem_cons_self).ne
  · rcases List.mem_cons.mp new with equal | behind
    · exact equal
    · exact absurd same.symm (List.rel_of_pairwise_cons later behind).ne

end Order

/-- A file to which a passage has written before is read with what that passage wrote. -/
theorem Chain.read_written {other : Passage} {code : String}
    (chain : walk.Chain yields tree passages last)
    (sorted : passages.Pairwise fun one next => Precedes one.rel next.rel)
    (member : passage ∈ passages) (writes : walk.Writes (walk.root ++ other.rel) passage code)
    (later : other ∈ passages) (precedes : Precedes passage.rel other.rel) :
    other.read = tree.textOf (walk.root ++ other.rel) (.text code) := by
  obtain ⟨before, after, rfl⟩ := List.append_of_mem later
  obtain ⟨content, held, read⟩ := chain.read
  obtain ⟨writer, earlier, written, ⟨place, wrote⟩, now⟩ := heldAfter_of_writes
    (tree.content? (walk.root ++ other.rel)) (mem_before sorted member precedes) writes
  have same : writer.rel = passage.rel := List.append_cancel_left (place.trans writes.1.symm)
  obtain rfl := eq_of_rel_eq sorted (List.mem_append_left _ earlier) member same
  obtain rfl := Option.some.inj (wrote.symm.trans writes.2)
  obtain rfl := Option.some.inj (now.symm.trans held)
  exact read

/-- Nothing but harmless passages is exactly what it takes for a whole walk to read the files that
were there at first. -/
theorem Course.original_iff
    (course : walk.Course yields levels [] (walk.tree.namesAt walk.root) walk.tree passages last)
    (wellFormed : walk.tree.WellFormed) (output : walk.tree.entry? walk.out = some .directory) :
    (∀ passage ∈ passages, walk.Original passage) ↔
      ∀ passage ∈ passages, walk.Harmless passage := by
  have increasing : (walk.tree.namesAt walk.root).Pairwise (· < ·) :=
    FileTree.sorted_namesAt wellFormed.distinct
  have listed (name : String) : name ∈ walk.tree.namesAt walk.root ↔
      (walk.tree.entry? (walk.root ++ [name])).isSome := FileTree.mem_namesAt
  constructor
  · intro original passage member above rel code _ root split wrote ahead
    obtain ⟨front, first, before, second, after, here, there, less, stands⟩ := ahead
    have writes : walk.Writes (walk.root ++ rel) passage code :=
      ⟨by rw [split, root, List.append_assoc], wrote⟩
    obtain ⟨now, admitted⟩ := course.admits enters_nil member
    rw [split] at admitted
    have short : rel.length ≤ 0 + 1 + levels := by
      obtain ⟨name, -, rest, way, bound⟩ := course.exists_name member
      have length := congrArg List.length (split.symm.trans way)
      simp only [List.length_append, List.length_cons, List.length_nil] at length
      omega
    obtain ⟨other, later, same⟩ := course.meets wellFormed increasing
      (fun _ _ file => admitted.suffix root (by simp [there]) file) short member writes
      here there less stands (by rintro rfl; simpa [listed] using stands)
    subst same
    have read := course.chain.read_written (course.sorted wellFormed increasing) member writes later
      ⟨front, first, before, second, after, here, there, less⟩
    obtain ⟨content, file, first⟩ := original other later
    exact ⟨content, file, read.symm.trans first⟩
  · intro harmless
    have start : walk.Before yields [] [] (walk.tree.namesAt walk.root) walk.tree :=
      ⟨.nil, enters_nil, increasing, fun name member => (listed name).mp member,
        List.forall_mem_nil _⟩
    exact course.original wellFormed output start harmless

end GrammarEmbed.Walk
