import GrammarEmbed.Proofs.CourseRuns
import GrammarEmbed.Proofs.OriginalSources

/-!
Courses whose output directory is the root or does not hold it. Such a course never comes to what
it has written, and no file gets in the way of another, so every file is settled by the tree at the
start.
-/

namespace GrammarEmbed

open GrammarEmbed.Path OnTree FilePrecompiler

namespace Walk

variable {walk : Walk} {yields : Yields} {tree last : FileTree} {passages : List Passage}
  {passage : Passage} {rel other : List String} {levels : Nat} {code : String}

/-- No admitted file is on the way to another. -/
theorem Admits.eq_of_prefix (admitted : walk.Admits rel) (also : walk.Admits other)
    (wellFormed : walk.tree.WellFormed) (front : other <+: rel) : other = rel := by
  obtain ⟨rest, rfl⟩ := front
  obtain ⟨content, file⟩ := admitted.file
  obtain ⟨_, before⟩ := also.file
  cases rest with
  | nil => rw [List.append_nil]
  | cons name rest =>
    rw [← List.append_assoc] at file
    cases before.symm.trans (wellFormed.directory_on_way (by simp) file)

section Chains

variable (chain : walk.Chain yields tree passages last)

include chain

/-- Files stay files, and only what is written is a new one. -/
theorem Chain.file_iff {place : List String}
    (unwritten : ∀ passage ∈ passages, walk.out ++ passage.rel ≠ place) :
    (∃ content, last.entry? place = some (.file content)) ↔
      ∃ content, tree.entry? place = some (.file content) := by
  constructor
  · rintro ⟨content, file⟩
    rw [← FileTree.content_eq_some_iff, chain.content] at file
    rcases heldAfter_cases passages (tree.content? place) with
      same | ⟨writer, member, _, ⟨here, -⟩, -⟩
    · rw [same, FileTree.content_eq_some_iff] at file
      exact ⟨content, file⟩
    · exact absurd here (unwritten writer member)
  · rintro ⟨content, file⟩
    exact chain.keepsKinds.file file

/-- Files that do not lie on the way to each other do not get in each other's way. -/
theorem Chain.writable_iff
    (apart : ∀ passage ∈ passages, ¬ passage.rel <+: rel ∧ ¬ rel <+: passage.rel) :
    last.Writable walk.out rel ↔ tree.Writable walk.out rel := by
  have kinds := chain.keepsKinds
  have permitted := chain.permitted
  have way (above : List String) (front : above <+: rel) :
      last.Bars (walk.out ++ above) ↔ tree.Bars (walk.out ++ above) := by
    refine permitted.bars_iff (chain.file_iff fun passage member same => ?_) kinds.isSome
    exact (apart passage member).1 (List.append_cancel_left same ▸ front)
  have directory : last.entry? (walk.out ++ rel) = some .directory ↔
      tree.entry? (walk.out ++ rel) = some .directory := by
    refine ⟨fun now => ?_, kinds.directory⟩
    rcases chain.added (Option.isSome_of_eq_some now) with before | ⟨passage, member, -, front⟩
    · exact kinds.directory_before before now
    · exact absurd ((List.prefix_append_right_inj walk.out).mp front) (apart passage member).2
  have added : (last.entry? (walk.out ++ rel) = none →
      last.refuses .write (walk.out ++ rel).dropLast = false) ↔
      (tree.entry? (walk.out ++ rel) = none →
        tree.refuses .write (walk.out ++ rel).dropLast = false) := by
    simpa using not_congr (permitted.refused_iff kinds.isSome)
  have accepts : last.refuses .write (walk.out ++ rel) = tree.refuses .write (walk.out ++ rel) :=
    FileTree.refuses_congr permitted.refused .write _
  constructor
  · intro free
    exact
      { way := fun above filled front proper =>
          (way above front).not.mp (free.way above filled front proper)
        noDirectory := directory.not.mp free.noDirectory
        added := added.mp free.added
        accepts := accepts ▸ free.accepts }
  · intro free
    exact
      { way := fun above filled front proper =>
          (way above front).not.mpr (free.way above filled front proper)
        noDirectory := directory.not.mpr free.noDirectory
        added := added.mpr free.added
        accepts := accepts ▸ free.accepts }

/-- Where something was written there is the code of the last that was. -/
theorem Chain.file_of_writes {place : List String} (member : passage ∈ passages)
    (writes : walk.Writes place passage code) : ∃ writer ∈ passages, ∃ written,
      walk.Writes place writer written ∧ last.entry? place = some (.file (.text written)) := by
  obtain ⟨writer, also, written, there, held⟩ :=
    heldAfter_of_writes (tree.content? place) member writes
  rw [← chain.content, FileTree.content_eq_some_iff] at held
  exact ⟨writer, also, written, there, held⟩

theorem Chain.delivered (sorted : passages.Pairwise fun one next => Precedes one.rel next.rel)
    (member : passage ∈ passages) (wrote : passage.code? = some code) :
    last.entry? (walk.out ++ passage.rel) = some (.file (.text code)) := by
  obtain ⟨writer, also, written, ⟨place, wrote'⟩, file⟩ := chain.file_of_writes member ⟨rfl, wrote⟩
  obtain rfl := eq_of_rel_eq sorted also member (List.append_cancel_left place)
  rw [file, Option.some.inj (wrote'.symm.trans wrote)]

/-- Elsewhere than at the outputs nothing is new but directories that they need. -/
theorem Chain.frame (wellFormed : tree.WellFormed)
    (output : tree.entry? walk.out = some .directory) (place : List String) :
    last.entry? place = tree.entry? place ∨
    tree.entry? place = none ∧ last.entry? place = some .directory ∧
      (∃ passage ∈ passages, ∃ above, above <+: passage.rel ∧ above ≠ passage.rel ∧
        place = walk.out ++ above) ∨
    ∃ passage ∈ passages, (passage.code?).isSome ∧ place = walk.out ++ passage.rel := by
  cases now : last.entry? place with
  | none =>
    refine .inl (Eq.symm (Option.not_isSome_iff_eq_none.mp fun stood => ?_))
    simpa [now] using chain.keepsKinds.isSome stood
  | some entry =>
    cases entry with
    | file content =>
      rw [← FileTree.content_eq_some_iff, chain.content] at now
      rcases heldAfter_cases passages (tree.content? place) with
        same | ⟨writer, member, written, ⟨here, wrote⟩, -⟩
      · rw [same, FileTree.content_eq_some_iff] at now
        exact .inl now.symm
      · exact .inr (.inr ⟨writer, member, by simp [wrote], here.symm⟩)
    | directory =>
      cases before : tree.entry? place with
      | some =>
        have same := chain.keepsKinds.directory_before (Option.isSome_of_eq_some before) now
        exact .inl (same.symm.trans before)
      | none =>
        obtain ⟨passage, member, wrote, front⟩ :=
          (chain.added (Option.isSome_of_eq_some now)).resolve_left (by simp [before])
        obtain ⟨code, wrote⟩ := Option.isSome_iff_exists.mp wrote
        rcases List.prefix_or_prefix_of_prefix front (List.prefix_append _ _) with
          inside | ⟨above, rfl⟩
        · simpa [before] using wellFormed.isSome_of_prefix output inside
        · refine .inr (.inl ⟨rfl, rfl, passage, member, above,
            (List.prefix_append_right_inj walk.out).mp front, ?_, rfl⟩)
          rintro rfl
          obtain ⟨_, _, _, _, file⟩ := chain.file_of_writes member ⟨rfl, wrote⟩
          cases now.symm.trans file

end Chains

section Apart

variable
  (course : walk.Course yields levels [] (walk.tree.namesAt walk.root) walk.tree passages last)

include course

theorem Course.original_of_apart (wellFormed : walk.tree.WellFormed)
    (output : walk.tree.entry? walk.out = some .directory)
    (apart : ∀ above, above ≠ [] → walk.root ≠ walk.out ++ above) :
    ∀ passage ∈ passages, walk.Original passage := by
  refine (course.original_iff wellFormed output).mpr fun passage _ above _ _ filled below => ?_
  exact absurd below (apart above filled)

theorem Course.increasing (wellFormed : walk.tree.WellFormed) :
    passages.Pairwise fun one next => Precedes one.rel next.rel :=
  course.sorted wellFormed (FileTree.sorted_namesAt wellFormed.distinct)

variable (original : ∀ passage ∈ passages, walk.Original passage)

include original

theorem Course.admitted : ∀ passage ∈ passages, walk.Admits passage.rel := by
  intro passage member
  obtain ⟨content, file, -⟩ := original passage member
  obtain ⟨now, admitted⟩ := course.admits enters_nil member
  exact ⟨⟨content, file⟩, admitted.visible, admitted.entered, admitted.source⟩

variable (wellFormed : walk.tree.WellFormed)

include wellFormed

/-- Every file is settled by the tree at the start. -/
theorem Course.settled : ∀ passage ∈ passages,
    passage.Settles yields (walk.tree.Writable walk.out passage.rel) := by
  intro passage member
  have admitted := course.admitted original
  have increasing := course.increasing wellFormed
  obtain ⟨before, after, rfl⟩ := List.append_of_mem member
  obtain ⟨now, next, upTo, passes⟩ := course.chain.split
  refine passes.settles.congr (upTo.writable_iff fun other earlier => ?_)
  have precedes : Precedes other.rel passage.rel :=
    (List.pairwise_append.mp increasing).2.2 other earlier passage List.mem_cons_self
  have here := admitted passage member
  have there := admitted other (List.mem_append_left _ earlier)
  exact ⟨fun front => precedes.ne (here.eq_of_prefix there wellFormed front),
    fun front => precedes.ne (there.eq_of_prefix here wellFormed front).symm⟩

end Apart

end Walk

/-- A run over a directory, from the moment when the output directory is there. -/
structure Mirror extends Walk where
  config : Config
  /-- The keys that the runtime may give. -/
  issued : String → Prop
  answer : CompiledModule → Except Error (Option ParserExports)
  /-- The path of the root. -/
  source : String
  /-- The path of the output directory. -/
  output : String

namespace Mirror

def yields (mirror : Mirror) : Yields := fun rel text result =>
  ∃ key, mirror.issued key ∧
    Precompiler.runText (m := Id) (.fixed key mirror.answer) mirror.config text
      (joinAll mirror.source rel) = result

variable {mirror : Mirror} {tree final : FileTree} {passages : List Passage} {rel : List String}
  {σ : Type} {runtime : Runtime (OnTree σ)}

theorem answers (steady : runtime.Steady mirror.issued mirror.answer) :
    runtime.Answers mirror.config mirror.source mirror.yields := by
  intro rel text tree world
  obtain ⟨key, next, known, ran⟩ :=
    steady.runText mirror.config text (joinAll mirror.source rel) tree world
  exact ⟨_, next, ⟨key, known, rfl⟩, ran⟩

end Mirror

end GrammarEmbed
