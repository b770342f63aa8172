import GrammarEmbed.Proofs.Deliveries
import GrammarEmbed.Proofs.SourceWalk

/-!
The course of a walk over a tree that changes on the way. Each file that the walk comes to is read
as it is then, and what comes out of it is written before the walk goes on. `Walk.Course` follows
the recursion of a run; `Walk.Chain` forgets the directories and keeps the files in their order.
-/

namespace GrammarEmbed

open GrammarEmbed.Path

structure Passage where
  /-- The names that lead to the file from the root. -/
  rel : List String
  /-- What was read from it. -/
  read : Except IoFault String
  /-- The code that came out and how writing it ended, if it came to that. -/
  wrote : Option (String × Except IoFault Unit)
  /-- What the file came to in the end. -/
  result : Except Error (String × Outcome)

/-- What the text of a file may come to, by the names that lead to the file. -/
abbrev Yields : Type :=
  List String → String → Except Error (String × Outcome) → Prop

namespace Passage

def code? (passage : Passage) : Option String :=
  match passage.wrote with
  | some (code, .ok _) => some code
  | _ => none

/-- Only what was tried and came to a good end was written. -/
theorem code_eq {rel : List String} {read : Except IoFault String} {code : String}
    {tried : Option (Except IoFault Unit)} {result : Except Error (String × Outcome)} :
    code? ⟨rel, read, tried.map (code, ·), result⟩ =
      if tried = some (.ok ()) then some code else none := by
  rcases tried with _ | (fault | _) <;> rfl

/-- How the result of a passage comes about. Nothing is written unless all goes well. -/
inductive Settles (yields : Yields) (writable : Prop) (passage : Passage) : Prop where
  | unreadable {fault : IoFault} (read : passage.read = .error fault)
      (result : passage.result = .error (.io fault)) (unwritten : passage.code? = none)
  | failed {text : String} {error : Error} (read : passage.read = .ok text)
      (comes : yields passage.rel text (.error error)) (result : passage.result = .error error)
      (unwritten : passage.code? = none)
  | unwritable {text code : String} {outcome : Outcome} {fault : IoFault}
      (read : passage.read = .ok text) (comes : yields passage.rel text (.ok (code, outcome)))
      (stuck : ¬ writable) (result : passage.result = .error (.io fault))
      (unwritten : passage.code? = none)
  | written {text code : String} {outcome : Outcome} (read : passage.read = .ok text)
      (comes : yields passage.rel text (.ok (code, outcome))) (free : writable)
      (result : passage.result = .ok (code, outcome)) (wrote : passage.code? = some code)

variable {passage : Passage} {yields : Yields} {writable other : Prop} {code : String}

theorem Settles.congr (settles : passage.Settles yields writable) (same : writable ↔ other) :
    passage.Settles yields other := by
  rwa [← propext same]

/-- Code was written exactly if the file came out with it. -/
theorem Settles.code_iff (settles : passage.Settles yields writable) :
    passage.code? = some code ↔ ∃ outcome, passage.result = .ok (code, outcome) := by
  cases settles with
  | unreadable _ result unwritten => simp [result, unwritten]
  | failed _ _ result unwritten => simp [result, unwritten]
  | unwritable _ _ _ result unwritten => simp [result, unwritten]
  | written _ _ _ result wrote => simp [result, wrote]

/-- What came out is what the text that was read comes to. -/
theorem Settles.comes {outcome : Outcome} (settles : passage.Settles yields writable)
    (ok : passage.result = .ok (code, outcome)) :
    ∃ text, passage.read = .ok text ∧ yields passage.rel text (.ok (code, outcome)) := by
  cases settles with
  | unreadable _ result => cases result.symm.trans ok
  | failed _ _ result => cases result.symm.trans ok
  | unwritable _ _ _ result => cases result.symm.trans ok
  | written read comes _ result =>
    cases result.symm.trans ok
    exact ⟨_, read, comes⟩

end Passage

namespace FileTree

variable {tree later last : FileTree} {place target : List String} {code : String}

def content? (tree : FileTree) (place : List String) : Option Content :=
  match tree.entry? place with
  | some (.file content) => some content
  | _ => none

theorem content_eq_some_iff {content : Content} :
    tree.content? place = some content ↔ tree.entry? place = some (.file content) := by
  unfold content?
  cases tree.entry? place with
  | none => simp
  | some entry => cases entry <;> simp

theorem textOf_congr (same : later.refused = tree.refused) (place : List String)
    (content : Content) : later.textOf place content = tree.textOf place content := by
  rw [textOf, refuses_congr same, textOf]

theorem WellFormed.isSome_of_prefix (wellFormed : tree.WellFormed) {entry : FileEntry}
    (stands : tree.entry? target = some entry) (onWay : place <+: target) :
    (tree.entry? place).isSome := by
  obtain ⟨rest, rfl⟩ := onWay
  cases rest with
  | nil => simp_all
  | cons => simp [wellFormed.directory_on_way (by simp) stands]

theorem WellFormed.directory_at (wellFormed : tree.WellFormed) {above dir rest : List String}
    {name next : String}
    (stands : (tree.entry? (above ++ (dir ++ name :: rest ++ [next]))).isSome) :
    tree.entry? (above ++ (dir ++ [name])) = some .directory := by
  obtain ⟨entry, there⟩ := Option.isSome_iff_exists.mp stands
  have split : above ++ (dir ++ name :: rest ++ [next]) =
      above ++ (dir ++ [name]) ++ (rest ++ [next]) := by simp
  rw [split] at there
  exact wellFormed.directory_on_way (by simp) there

section Missing

variable (wellFormed : tree.WellFormed) (nothing : tree.entry? place = none)

include wellFormed nothing

/-- Where nothing is there is nothing below. -/
theorem WellFormed.entry_below (onWay : place <+: target) : tree.entry? target = none := by
  refine Option.not_isSome_iff_eq_none.mp fun stands => ?_
  obtain ⟨entry, there⟩ := Option.isSome_iff_exists.mp stands
  have here := wellFormed.isSome_of_prefix there onWay
  simp [nothing] at here

theorem WellFormed.refuses_below (onWay : place <+: target) (proper : place ≠ target)
    (access : Access) : tree.refuses access target.dropLast = false := by
  obtain ⟨rest, rfl⟩ := onWay
  have filled : rest ≠ [] := by
    rintro rfl
    exact proper (List.append_nil place).symm
  rw [List.dropLast_append_of_ne_nil filled]
  exact wellFormed.not_refuses (wellFormed.entry_below nothing (List.prefix_append _ _)) access

theorem WellFormed.not_bars_below (onWay : place <+: target) (proper : place ≠ target) :
    ¬ tree.Bars target := by
  rintro (⟨content, file⟩ | ⟨-, refused⟩)
  · cases (wellFormed.entry_below nothing onWay).symm.trans file
  · cases (wellFormed.refuses_below nothing onWay proper .write).symm.trans refused

end Missing

/-- Directories stay directories, and files stay files. -/
def KeepsKinds (tree later : FileTree) : Prop :=
  ∀ place entry, tree.entry? place = some entry →
    ∃ now, later.entry? place = some now ∧ (now = .directory ↔ entry = .directory)

theorem KeepsKinds.refl (tree : FileTree) : KeepsKinds tree tree :=
  fun _ entry stands => ⟨entry, stands, Iff.rfl⟩

theorem KeepsKinds.trans (first : KeepsKinds tree later) (second : KeepsKinds later last) :
    KeepsKinds tree last := by
  intro place entry stands
  obtain ⟨between, there, same⟩ := first place entry stands
  obtain ⟨now, here, also⟩ := second place between there
  exact ⟨now, here, also.trans same⟩

theorem KeepsKinds.directory (kinds : KeepsKinds tree later)
    (directory : tree.entry? place = some .directory) : later.entry? place = some .directory := by
  obtain ⟨now, here, same⟩ := kinds place .directory directory
  rw [here, same.mpr rfl]

theorem KeepsKinds.file (kinds : KeepsKinds tree later) {content : Content}
    (file : tree.entry? place = some (.file content)) :
    ∃ now, later.entry? place = some (.file now) := by
  obtain ⟨entry, here, same⟩ := kinds place _ file
  cases entry with
  | directory => cases same.mp rfl
  | file now => exact ⟨now, here⟩

theorem KeepsKinds.isSome (kinds : KeepsKinds tree later) (stands : (tree.entry? place).isSome) :
    (later.entry? place).isSome := by
  obtain ⟨entry, there⟩ := Option.isSome_iff_exists.mp stands
  obtain ⟨now, here, -⟩ := kinds place entry there
  simp [here]

/-- What is a directory now was one if it was there. -/
theorem KeepsKinds.directory_before (kinds : KeepsKinds tree later)
    (stood : (tree.entry? place).isSome) (directory : later.entry? place = some .directory) :
    tree.entry? place = some .directory := by
  obtain ⟨entry, there⟩ := Option.isSome_iff_exists.mp stood
  obtain ⟨now, here, same⟩ := kinds place entry there
  obtain rfl := Option.some.inj (here.symm.trans directory)
  rw [there, same.mp rfl]

theorem KeepsKinds.of_same (same : ∀ place, later.entry? place = tree.entry? place) :
    KeepsKinds tree later :=
  fun place entry stands => ⟨entry, (same place).trans stands, Iff.rfl⟩

/-- The other tree also has a file with the code at the target, and the directories on the way. -/
structure Gains (tree later : FileTree) (target : List String) (code : String) : Prop where
  file : later.entry? target = some (.file (.text code))
  free : tree.entry? target ≠ some .directory
  opened : ∀ place, place <+: target → place ≠ target → later.entry? place = some .directory
  unblocked : ∀ place, place <+: target → place ≠ target →
    ∀ content, tree.entry? place ≠ some (.file content)
  frame : ∀ place, ¬ place <+: target → later.entry? place = tree.entry? place

theorem Gains.keepsKinds (gains : tree.Gains later target code) : KeepsKinds tree later := by
  intro place entry stands
  by_cases onWay : place <+: target
  · by_cases here : place = target
    · subst here
      refine ⟨_, gains.file, ?_⟩
      cases entry with
      | directory => exact absurd stands gains.free
      | file => simp
    · refine ⟨_, gains.opened place onWay here, ?_⟩
      cases entry with
      | directory => simp
      | file content => exact absurd stands (gains.unblocked place onWay here content)
  · exact ⟨entry, (gains.frame place onWay).trans stands, Iff.rfl⟩

theorem Gains.content (gains : tree.Gains later target code) (place : List String) :
    later.content? place = if target = place then some (.text code) else tree.content? place := by
  split
  · rename_i here
    exact content_eq_some_iff.mpr (here ▸ gains.file)
  · rename_i elsewhere
    by_cases onWay : place <+: target
    · have now : later.content? place = none := by
        simp [content?, gains.opened place onWay (Ne.symm elsewhere)]
      rw [now, eq_comm, Option.eq_none_iff_forall_ne_some]
      intro content file
      exact gains.unblocked place onWay (Ne.symm elsewhere) content (content_eq_some_iff.mp file)
    · simp only [content?, gains.frame place onWay]

section Delivered

variable {out rel : List String} {fault : IoFault}

/-- Where a delivery has left a directory one could be made. -/
theorem Delivered.not_bars (delivered : Delivered tree out rel code (.error fault, later))
    (permitted : Permitted tree later) (directory : later.entry? place = some .directory) :
    ¬ tree.Bars place := by
  rintro (⟨content, file⟩ | ⟨nothing, refused⟩)
  · rcases delivered.frame place with same | ⟨free, -⟩ | ⟨-, ok⟩
    · cases (directory.symm.trans same).trans file
    · cases free.symm.trans file
    · cases ok
  · cases (permitted.added place nothing (by simp [directory])).symm.trans refused

/-- A delivery that fails leaves every entry as it was: what is in the way is there before the first
directory that is missing. -/
theorem Delivered.unchanged (delivered : Delivered tree out rel code (.error fault, later))
    (wellFormed : tree.WellFormed) (last : later.WellFormed) (permitted : Permitted tree later)
    (place : List String) : later.entry? place = tree.entry? place := by
  have stuck : ¬ tree.Writable out rel := fun free => nomatch delivered.ok_iff.mpr free
  rcases delivered.frame place with same | ⟨nothing, made, above, -, proper, front, rfl⟩ | ⟨-, ok⟩
  · exact same
  · exfalso
    have way : out ++ above <+: out ++ rel := (List.prefix_append_right_inj out).mpr front
    have above_ne : out ++ above ≠ out ++ rel := fun same => proper (List.append_cancel_left same)
    refine stuck ⟨fun blocked _ onWay _ => ?_, ?_, fun _ => ?_, ?_⟩
    · rcases List.prefix_or_prefix_of_prefix front onWay with inside | outside
      · by_cases here : above = blocked
        · subst here
          exact delivered.not_bars permitted made
        · exact wellFormed.not_bars_below nothing ((List.prefix_append_right_inj out).mpr inside)
            fun same => here (List.append_cancel_left same)
      · obtain ⟨rest, rfl⟩ := outside
        refine delivered.not_bars permitted ?_
        cases rest with
        | nil => rwa [List.append_nil] at made
        | cons =>
          rw [← List.append_assoc] at made
          exact last.directory_on_way (by simp) made
    · simp [wellFormed.entry_below nothing way]
    · exact wellFormed.refuses_below nothing way above_ne .write
    · exact wellFormed.not_refuses (wellFormed.entry_below nothing way) .write
  · cases ok

theorem Delivered.gains (delivered : Delivered tree out rel code (.ok (), later))
    (wellFormed : tree.WellFormed) (last : later.WellFormed)
    (directory : tree.entry? out = some .directory) : tree.Gains later (out ++ rel) code := by
  have free : tree.Writable out rel := delivered.ok_iff.mp rfl
  have file := delivered.written rfl
  refine ⟨file, free.noDirectory, ?_, ?_, ?_⟩
  · rintro place ⟨rest, same⟩ proper
    rw [← same] at file proper
    exact last.directory_on_way (by simpa using proper) file
  · intro place front proper content blocked
    rcases List.prefix_or_prefix_of_prefix front (List.prefix_append out rel) with
      ⟨rest, rfl⟩ | ⟨above, rfl⟩
    · cases rest with
      | nil =>
        rw [List.append_nil] at directory
        cases blocked.symm.trans directory
      | cons => cases blocked.symm.trans (wellFormed.directory_on_way (by simp) directory)
    · by_cases start : above = []
      · rw [start, List.append_nil] at blocked
        cases blocked.symm.trans directory
      · exact free.way above start ((List.prefix_append_right_inj out).mp front)
          (by simpa using proper) (.inl ⟨content, blocked⟩)
  · intro place apart
    rcases delivered.frame place with same | ⟨-, -, above, -, -, front, rfl⟩ | ⟨rfl, -⟩
    · exact same
    · exact absurd ((List.prefix_append_right_inj out).mpr front) apart
    · exact absurd List.prefix_rfl apart

end Delivered

end FileTree

namespace Walk

variable {walk : Walk} {yields : Yields} {tree middle last : FileTree}
  {passages more : List Passage} {passage : Passage} {place : List String} {code : String}

/-- One file: it is read as it is, and the tree gains its code if that is written. -/
structure Passes (walk : Walk) (yields : Yields) (tree : FileTree) (passage : Passage)
    (last : FileTree) : Prop where
  wellFormed : last.WellFormed
  permitted : FileTree.Permitted tree last
  read : ∃ content, tree.entry? (walk.root ++ passage.rel) = some (.file content) ∧
    passage.read = tree.textOf (walk.root ++ passage.rel) content
  settles : passage.Settles yields (tree.Writable walk.out passage.rel)
  kept : passage.code? = none → ∀ place, last.entry? place = tree.entry? place
  gained : ∀ code, passage.code? = some code →
    tree.Gains last (walk.out ++ passage.rel) code

/-- What the file at a place holds after some passages. -/
def heldAfter (walk : Walk) (place : List String) (passages : List Passage)
    (held : Option Content) : Option Content :=
  passages.foldl (fun held passage =>
    if walk.out ++ passage.rel = place then (passage.code?.map .text).or held else held) held

def Writes (walk : Walk) (place : List String) (passage : Passage) (code : String) : Prop :=
  walk.out ++ passage.rel = place ∧ passage.code? = some code

section Held

theorem heldAfter_append (held : Option Content) :
    walk.heldAfter place (passages ++ more) held =
      walk.heldAfter place more (walk.heldAfter place passages held) :=
  List.foldl_append

theorem heldAfter_cases (passages : List Passage) (held : Option Content) :
    walk.heldAfter place passages held = held ∨
      ∃ passage ∈ passages, ∃ code, walk.Writes place passage code ∧
        walk.heldAfter place passages held = some (.text code) := by
  induction passages generalizing held with
  | nil => exact .inl rfl
  | cons passage rest ih =>
    have step : walk.heldAfter place (passage :: rest) held =
        walk.heldAfter place rest (walk.heldAfter place [passage] held) := rfl
    rw [step]
    rcases ih (walk.heldAfter place [passage] held) with same | ⟨writer, member, code, writes, now⟩
    · rw [same]
      by_cases here : walk.out ++ passage.rel = place
      · cases wrote : passage.code? with
        | none => exact .inl (by simp [heldAfter, here, wrote])
        | some code =>
          exact .inr ⟨passage, List.mem_cons_self, code, ⟨here, wrote⟩, by
            simp [heldAfter, here, wrote]⟩
      · exact .inl (by simp [heldAfter, here])
    · exact .inr ⟨writer, List.mem_cons_of_mem _ member, code, writes, now⟩

/-- What is written to a place is there afterwards, or what was written there later. -/
theorem heldAfter_of_writes (held : Option Content) (member : passage ∈ passages)
    (writes : walk.Writes place passage code) :
    ∃ writer ∈ passages, ∃ code, walk.Writes place writer code ∧
      walk.heldAfter place passages held = some (.text code) := by
  obtain ⟨before, after, rfl⟩ := List.append_of_mem member
  have split : before ++ passage :: after = before ++ [passage] ++ after := by simp
  rw [split, heldAfter_append]
  rcases heldAfter_cases after (walk.heldAfter place (before ++ [passage]) held) with
    same | ⟨writer, later, code, writes, now⟩
  · rw [same, heldAfter_append]
    refine ⟨passage, by simp, code, writes, ?_⟩
    simp [heldAfter, writes.1, writes.2]
  · exact ⟨writer, by simp [later], code, writes, now⟩

end Held

section Steps

theorem Passes.keepsKinds (passes : walk.Passes yields tree passage last) :
    FileTree.KeepsKinds tree last := by
  cases wrote : passage.code? with
  | none => exact .of_same (passes.kept wrote)
  | some code => exact (passes.gained code wrote).keepsKinds

theorem Passes.content (passes : walk.Passes yields tree passage last) (place : List String) :
    last.content? place = walk.heldAfter place [passage] (tree.content? place) := by
  cases wrote : passage.code? with
  | none => simp [heldAfter, wrote, FileTree.content?, passes.kept wrote]
  | some code => simp [heldAfter, wrote, (passes.gained code wrote).content]

/-- A new entry is the output or stands on the way to it. -/
theorem Passes.added (passes : walk.Passes yields tree passage last)
    (stands : (last.entry? place).isSome) :
    (tree.entry? place).isSome ∨
      (passage.code?).isSome ∧ place <+: walk.out ++ passage.rel := by
  cases wrote : passage.code? with
  | none => exact .inl (by rwa [← passes.kept wrote])
  | some code =>
    by_cases onWay : place <+: walk.out ++ passage.rel
    · exact .inr ⟨rfl, onWay⟩
    · exact .inl (by rwa [← (passes.gained code wrote).frame place onWay])

end Steps

/-- Files that are passed one after the other. -/
inductive Chain (walk : Walk) (yields : Yields) : FileTree → List Passage → FileTree → Prop where
  | nil {tree : FileTree} : Chain walk yields tree [] tree
  | cons {tree middle last : FileTree} {passage : Passage} {more : List Passage}
      (passes : walk.Passes yields tree passage middle)
      (rest : Chain walk yields middle more last) :
      Chain walk yields tree (passage :: more) last

namespace Chain

theorem append (first : walk.Chain yields tree passages middle)
    (second : walk.Chain yields middle more last) :
    walk.Chain yields tree (passages ++ more) last := by
  induction first with
  | nil => exact second
  | cons passes _ ih => exact .cons passes (ih second)

theorem split {before after : List Passage}
    (chain : walk.Chain yields tree (before ++ passage :: after) last) :
    ∃ now next, walk.Chain yields tree before now ∧ walk.Passes yields now passage next := by
  induction before generalizing tree with
  | nil =>
    cases chain with
    | cons passes _ => exact ⟨_, _, .nil, passes⟩
  | cons first rest ih =>
    cases chain with
    | cons passes others =>
      obtain ⟨now, next, upTo, here⟩ := ih others
      exact ⟨now, next, .cons passes upTo, here⟩

/-- Every file is settled by the tree as it is when its turn comes. -/
theorem settles (chain : walk.Chain yields tree passages last) (member : passage ∈ passages) :
    ∃ now : FileTree, passage.Settles yields (now.Writable walk.out passage.rel) := by
  obtain ⟨before, after, rfl⟩ := List.append_of_mem member
  obtain ⟨now, next, -, passes⟩ := chain.split
  exact ⟨now, passes.settles⟩

theorem wellFormed (chain : walk.Chain yields tree passages last) (start : tree.WellFormed) :
    last.WellFormed := by
  induction chain with
  | nil => exact start
  | cons passes _ ih => exact ih passes.wellFormed

theorem keepsKinds (chain : walk.Chain yields tree passages last) :
    FileTree.KeepsKinds tree last := by
  induction chain with
  | nil => exact .refl _
  | cons passes _ ih => exact passes.keepsKinds.trans ih

theorem permitted (chain : walk.Chain yields tree passages last) :
    FileTree.Permitted tree last := by
  induction chain with
  | nil => exact .refl _
  | cons passes _ ih => exact passes.permitted.trans ih

theorem content (chain : walk.Chain yields tree passages last) (place : List String) :
    last.content? place = walk.heldAfter place passages (tree.content? place) := by
  induction chain with
  | nil => rfl
  | cons passes _ ih => rw [ih, passes.content]; rfl

theorem added (chain : walk.Chain yields tree passages last) (stands : (last.entry? place).isSome) :
    (tree.entry? place).isSome ∨
      ∃ passage ∈ passages, (passage.code?).isSome ∧ place <+: walk.out ++ passage.rel := by
  induction chain with
  | nil => exact .inl stands
  | cons passes _ ih =>
    rcases ih stands with between | ⟨passage, member, wrote⟩
    · rcases passes.added between with before | wrote
      · exact .inl before
      · exact .inr ⟨_, List.mem_cons_self, wrote⟩
    · exact .inr ⟨passage, List.mem_cons_of_mem _ member, wrote⟩

/-- What cannot be listed later could not be listed before. -/
theorem listable (chain : walk.Chain yields tree passages last) (wellFormed : tree.WellFormed)
    (listable : Walk.Listable { walk with tree := tree }) :
    Walk.Listable { walk with tree := last } := by
  intro rel directory enters
  rw [FileTree.refuses_congr chain.permitted.refused]
  cases before : tree.entry? (walk.root ++ rel) with
  | none => exact wellFormed.not_refuses before .read
  | some =>
    exact listable rel (chain.keepsKinds.directory_before (by simp [before]) directory) enters

/-- A file is read with what it held at first, or with what was last written to it. -/
theorem read {before after : List Passage}
    (chain : walk.Chain yields tree (before ++ passage :: after) last) :
    ∃ content, walk.heldAfter (walk.root ++ passage.rel) before
        (tree.content? (walk.root ++ passage.rel)) = some content ∧
      passage.read = tree.textOf (walk.root ++ passage.rel) content := by
  obtain ⟨now, next, upTo, here⟩ := chain.split
  obtain ⟨content, file, read⟩ := here.read
  refine ⟨content, ?_, ?_⟩
  · rw [← upTo.content, FileTree.content_eq_some_iff, file]
  · rw [read, FileTree.textOf_congr upTo.permitted.refused]

end Chain

section Courses

variable {dir names rel : List String} {levels : Nat} {name : String}

/-- The walk passes over what stands under a name of a directory. -/
inductive Skips (walk : Walk) (tree : FileTree) (levels : Nat) (dir : List String)
    (name : String) : Prop where
  | hidden (hidden : isHidden name = true)
  | unentered (directory : tree.entry? (walk.root ++ (dir ++ [name])) = some .directory)
      (why : walk.root ++ (dir ++ [name]) = walk.out ∨ name = packageDirectory ∨ levels = 0)
  | other (noDirectory : tree.entry? (walk.root ++ (dir ++ [name])) ≠ some .directory)
      (noSource : FilePrecompiler.isSource walk.extensions name = false)

/-- The course over the names that were listed in a directory, with the levels below it. A
directory is listed when the walk enters it, so what was written before is found there. -/
inductive Course (walk : Walk) (yields : Yields) : Nat → List String → List String → FileTree →
    List Passage → FileTree → Prop where
  | done {levels : Nat} {dir : List String} {tree : FileTree} :
      Course walk yields levels dir [] tree [] tree
  | skipped {levels : Nat} {dir names : List String} {name : String} {tree last : FileTree}
      {passages : List Passage} (skips : walk.Skips tree levels dir name)
      (rest : Course walk yields levels dir names tree passages last) :
      Course walk yields levels dir (name :: names) tree passages last
  | entered {levels : Nat} {dir names : List String} {name : String}
      {tree middle last : FileTree} {passages more : List Passage}
      (visible : isHidden name = false)
      (directory : tree.entry? (walk.root ++ (dir ++ [name])) = some .directory)
      (listable : tree.refuses .read (walk.root ++ (dir ++ [name])) = false)
      (notPackages : name ≠ packageDirectory)
      (notOutput : walk.root ++ (dir ++ [name]) ≠ walk.out)
      (inner : Course walk yields levels (dir ++ [name])
        (tree.namesAt (walk.root ++ (dir ++ [name]))) tree passages middle)
      (rest : Course walk yields (levels + 1) dir names middle more last) :
      Course walk yields (levels + 1) dir (name :: names) tree (passages ++ more) last
  | passed {levels : Nat} {dir names : List String} {name : String}
      {tree middle last : FileTree} {passage : Passage} {more : List Passage}
      (visible : isHidden name = false)
      (source : FilePrecompiler.isSource walk.extensions name = true)
      (here : passage.rel = dir ++ [name]) (passes : walk.Passes yields tree passage middle)
      (rest : Course walk yields levels dir names middle more last) :
      Course walk yields levels dir (name :: names) tree (passage :: more) last

theorem Enters.not_skips {rest : List String} (enters : walk.Enters (dir ++ name :: rest))
    (directory : tree.entry? (walk.root ++ (dir ++ [name])) = some .directory)
    (deep : rest.length < levels) : ¬ walk.Skips tree levels dir name := by
  obtain ⟨visible, notPackages, notOutput⟩ := enters dir name ⟨rest, by simp⟩
  rintro (hidden | ⟨-, output | packages | rfl⟩ | ⟨noDirectory, -⟩)
  · cases visible.symm.trans hidden
  · exact notOutput output
  · exact notPackages packages
  · exact absurd deep (Nat.not_lt_zero _)
  · exact noDirectory directory

namespace Course

theorem chain (course : walk.Course yields levels dir names tree passages last) :
    walk.Chain yields tree passages last := by
  induction course with
  | done => exact .nil
  | skipped _ _ ih => exact ih
  | entered _ _ _ _ _ _ _ inner rest => exact inner.append rest
  | passed _ _ _ passes _ ih => exact .cons passes ih

theorem append {others : List String}
    (first : walk.Course yields levels dir names tree passages middle)
    (second : walk.Course yields levels dir others middle more last) :
    walk.Course yields levels dir (names ++ others) tree (passages ++ more) last := by
  induction first with
  | done => exact second
  | skipped skips _ ih => exact .skipped skips (ih second)
  | entered visible directory listable notPackages notOutput inner _ _ ih =>
    rw [List.append_assoc]
    exact .entered visible directory listable notPackages notOutput inner (ih second)
  | passed visible source here passes _ ih => exact .passed visible source here passes (ih second)

/-- All that is passed stands at or below one of the names, within the levels. -/
theorem exists_name (course : walk.Course yields levels dir names tree passages last)
    (member : passage ∈ passages) :
    ∃ name ∈ names, ∃ rest, passage.rel = dir ++ name :: rest ∧ rest.length ≤ levels := by
  induction course with
  | done => cases member
  | skipped _ _ ih =>
    obtain ⟨name, listed, rest⟩ := ih member
    exact ⟨name, List.mem_cons_of_mem _ listed, rest⟩
  | @entered _ _ _ head _ _ _ _ _ _ _ _ _ _ _ _ inner rest =>
    rcases List.mem_append.mp member with deeper | later
    · obtain ⟨name, -, below, split, short⟩ := inner deeper
      exact ⟨head, List.mem_cons_self, name :: below, by simpa using split, by simpa using short⟩
    · obtain ⟨name, listed, below⟩ := rest later
      exact ⟨name, List.mem_cons_of_mem _ listed, below⟩
  | @passed _ _ _ head _ _ _ _ _ _ _ here _ _ ih =>
    rcases List.mem_cons.mp member with rfl | later
    · exact ⟨head, List.mem_cons_self, [], here, Nat.zero_le _⟩
    · obtain ⟨name, listed, below⟩ := ih later
      exact ⟨name, List.mem_cons_of_mem _ listed, below⟩

theorem admits (course : walk.Course yields levels dir names tree passages last)
    (enters : walk.Enters dir) (member : passage ∈ passages) :
    ∃ now, Walk.Admits { walk with tree := now } passage.rel := by
  induction course with
  | done => cases member
  | skipped _ _ ih => exact ih enters member
  | entered visible _ _ notPackages notOutput _ _ inner rest =>
    rcases List.mem_append.mp member with deeper | later
    · exact inner (enters.concat visible notPackages notOutput) deeper
    · exact rest enters later
  | @passed _ _ _ _ tree _ _ _ _ visible source here passes _ ih =>
    rcases List.mem_cons.mp member with rfl | later
    · obtain ⟨content, file, -⟩ := passes.read
      rw [here] at file ⊢
      exact ⟨tree, @Admits.of_source { walk with tree := tree } _ _ content enters visible file
        source⟩
    · exact ih enters later

theorem sorted (course : walk.Course yields levels dir names tree passages last)
    (wellFormed : tree.WellFormed) (increasing : names.Pairwise (· < ·)) :
    passages.Pairwise (fun first second => Precedes first.rel second.rel) := by
  induction course with
  | done => exact .nil
  | skipped _ _ ih => exact ih wellFormed increasing.of_cons
  | @entered _ dir _ _ _ _ _ _ _ _ _ _ _ _ inner rest before after =>
    have middle := inner.chain.wellFormed wellFormed
    refine List.pairwise_append.mpr ⟨before wellFormed ?_, after middle increasing.of_cons, ?_⟩
    · exact FileTree.sorted_namesAt wellFormed.distinct
    intro first deeper second later
    obtain ⟨_, -, rest', split, -⟩ := inner.exists_name deeper
    obtain ⟨other, listed, below, split', -⟩ := rest.exists_name later
    exact ⟨dir, _, _, other, below, by simpa using split, split',
      List.rel_of_pairwise_cons increasing listed⟩
  | @passed _ dir _ _ _ _ _ _ _ _ _ here passes rest ih =>
    refine List.pairwise_cons.mpr ⟨fun second later => ?_, ih passes.wellFormed increasing.of_cons⟩
    obtain ⟨other, listed, below, split, -⟩ := rest.exists_name later
    exact ⟨dir, _, [], other, below, here, split, List.rel_of_pairwise_cons increasing listed⟩

/-- A course that is at a name of a directory, as a part of another one. -/
def Reached (walk : Walk) (yields : Yields) (tree : FileTree) (passages : List Passage)
    (levels : Nat) (dir : List String) (name : String) : Prop :=
  ∃ now names found last, now.WellFormed ∧ FileTree.KeepsKinds tree now ∧
    FileTree.Permitted tree now ∧ found ⊆ passages ∧
    walk.Course yields levels dir (name :: names) now found last

theorem Reached.here (course : walk.Course yields levels dir (name :: names) tree passages last)
    (wellFormed : tree.WellFormed) : Reached walk yields tree passages levels dir name :=
  ⟨tree, names, passages, last, wellFormed, .refl tree, .refl tree, List.Subset.refl _, course⟩

theorem Reached.later (chain : walk.Chain yields tree passages middle)
    (reached : Reached walk yields middle more levels dir name) :
    Reached walk yields tree (passages ++ more) levels dir name := by
  obtain ⟨now, names, found, last, wellFormed, kinds, permitted, sub, course⟩ := reached
  exact ⟨now, names, found, last, wellFormed, chain.keepsKinds.trans kinds,
    chain.permitted.trans permitted, List.subset_append_of_subset_right _ sub, course⟩

theorem Reached.sooner (reached : Reached walk yields tree passages levels dir name)
    (more : List Passage) : Reached walk yields tree (passages ++ more) levels dir name := by
  obtain ⟨now, names, found, last, wellFormed, kinds, permitted, sub, course⟩ := reached
  exact ⟨now, names, found, last, wellFormed, kinds, permitted,
    List.subset_append_of_subset_left _ sub, course⟩

/-- The course comes to what stands under one of the names, through directories that it enters. -/
theorem reach (course : walk.Course yields levels dir names tree passages last)
    (wellFormed : tree.WellFormed) {above rest : List String} {head : String}
    (enters : walk.Enters (dir ++ above))
    (stands : (tree.entry? (walk.root ++ (dir ++ above ++ [name]))).isSome)
    (split : above ++ [name] = head :: rest) (listed : head ∈ names)
    (short : above.length ≤ levels) :
    Reached walk yields tree passages (levels - above.length) (dir ++ above) name := by
  induction course generalizing above head rest with
  | done => cases listed
  | skipped skips others ih =>
    rcases List.mem_cons.mp listed with rfl | later
    · cases above with
      | nil =>
        obtain ⟨rfl, -⟩ := List.cons.inj split
        rw [List.append_nil]
        exact .here (.skipped skips others) wellFormed
      | cons next above =>
        obtain ⟨rfl, -⟩ := List.cons.inj split
        exact absurd skips (enters.not_skips (wellFormed.directory_at stands) short)
    · exact ih wellFormed enters stands split later short
  | @entered levels dir names first tree middle _ _ more visible directory listable notPackages
      notOutput inner others deeper after =>
    rcases List.mem_cons.mp listed with rfl | later
    · cases above with
      | nil =>
        obtain ⟨rfl, -⟩ := List.cons.inj split
        rw [List.append_nil]
        exact .here (.entered visible directory listable notPackages notOutput inner others)
          wellFormed
      | cons next above =>
        obtain ⟨rfl, -⟩ := List.cons.inj split
        obtain ⟨first, below, into⟩ : ∃ first below, above ++ [name] = first :: below :=
          List.exists_cons_of_ne_nil (by simp)
        have way : dir ++ next :: above = dir ++ [next] ++ above := by simp
        rw [way] at enters stands ⊢
        obtain ⟨entry, there⟩ := Option.isSome_iff_exists.mp stands
        have found : first ∈ tree.namesAt (walk.root ++ (dir ++ [next])) := by
          rw [FileTree.mem_namesAt]
          refine wellFormed.isSome_of_prefix there ⟨below, ?_⟩
          simp [into]
        rw [List.length_cons, Nat.add_sub_add_right]
        exact .sooner
          (deeper wellFormed enters stands into found (Nat.le_of_succ_le_succ short)) more
    · refine .later inner.chain (after (inner.chain.wellFormed wellFormed) enters ?_ split later
        short)
      exact inner.chain.keepsKinds.isSome stands
  | @passed levels dir names first tree middle _ passage _ visible source here passes others ih =>
    rcases List.mem_cons.mp listed with rfl | later
    · cases above with
      | nil =>
        obtain ⟨rfl, -⟩ := List.cons.inj split
        rw [List.append_nil]
        exact .here (.passed visible source here passes others) wellFormed
      | cons next above =>
        obtain ⟨rfl, -⟩ := List.cons.inj split
        obtain ⟨content, file, -⟩ := passes.read
        rw [here] at file
        cases file.symm.trans (wellFormed.directory_at stands)
    · have chain : walk.Chain yields tree [passage] middle := .cons passes .nil
      refine .later chain (ih passes.wellFormed enters ?_ split later short)
      exact passes.keepsKinds.isSome stands

/-- A file that is admitted now, under one of the names, is passed. -/
theorem finds (course : walk.Course yields levels dir names tree passages last)
    (wellFormed : tree.WellFormed) (admitted : Walk.Admits { walk with tree := tree } rel)
    {rest : List String} (split : rel = dir ++ name :: rest) (listed : name ∈ names)
    (short : rest.length ≤ levels) : ∃ passage ∈ passages, passage.rel = rel := by
  obtain ⟨content, file⟩ := admitted.file
  obtain ⟨above, last, into⟩ : ∃ above last, name :: rest = above ++ [last] := by
    rcases List.eq_nil_or_concat (name :: rest) with empty | ⟨above, last, same⟩
    · cases empty
    · exact ⟨above, last, same.trans List.concat_eq_append⟩
  have length : rest.length = above.length := by simpa using congrArg List.length into
  obtain rfl : rel = dir ++ above ++ [last] := by rw [split, into, List.append_assoc]
  obtain ⟨now, others, found, final, -, kinds, -, sub, part⟩ :=
    course.reach wellFormed admitted.enters (Option.isSome_of_eq_some file) into.symm listed
      (length ▸ short)
  obtain ⟨held, here⟩ := kinds.file file
  obtain ⟨dirs, other, same, source⟩ := admitted.source
  obtain ⟨-, rfl⟩ := List.append_inj' same rfl |>.imp_right List.singleton_inj.mp
  generalize levels - above.length = deep at part
  cases part with
  | skipped skips =>
    exfalso
    rcases skips with hidden | ⟨directory, -⟩ | ⟨-, noSource⟩
    · cases hidden.symm.trans (admitted.visible last (by simp))
    · cases here.symm.trans directory
    · cases source.symm.trans noSource
  | entered _ directory => cases here.symm.trans directory
  | passed _ _ rel_eq => exact ⟨_, sub List.mem_cons_self, rel_eq⟩

theorem listable (course : walk.Course yields levels dir names tree passages last)
    (wellFormed : tree.WellFormed) {above rest : List String}
    (directory : tree.entry? (walk.root ++ (dir ++ above ++ [name])) = some .directory)
    (enters : walk.Enters (dir ++ above ++ [name])) {head : String}
    (split : above ++ [name] = head :: rest) (listed : head ∈ names)
    (short : above.length < levels) :
    tree.refuses .read (walk.root ++ (dir ++ above ++ [name])) = false := by
  have inner : walk.Enters (dir ++ above) := fun front last onWay =>
    enters front last (onWay.trans (List.prefix_append _ _))
  obtain ⟨now, others, found, final, -, kinds, permitted, -, part⟩ :=
    course.reach wellFormed inner (Option.isSome_of_eq_some directory) split listed
      (Nat.le_of_lt short)
  have here := kinds.directory directory
  generalize same : levels - above.length = deep at part
  have deep_ne : 0 < deep := by omega
  cases part with
  | skipped skips => exact absurd skips (enters.not_skips here deep_ne)
  | entered _ _ listable =>
    rwa [FileTree.refuses_congr permitted.refused] at listable
  | passed _ _ rel_eq passes =>
    obtain ⟨content, file, -⟩ := passes.read
    rw [rel_eq] at file
    cases here.symm.trans file

/-- A whole course is taken only if every directory on it can be listed. -/
theorem all_listable
    (course : walk.Course yields levels [] (tree.namesAt walk.root) tree passages last)
    (wellFormed : tree.WellFormed) (start : tree.refuses .read walk.root = false)
    (deep : tree.depth ≤ levels) : Walk.Listable { walk with tree := tree } := by
  intro rel directory enters
  rcases List.eq_nil_or_concat rel with rfl | ⟨above, name, rfl⟩
  · rwa [List.append_nil]
  · rw [List.concat_eq_append] at directory enters ⊢
    obtain ⟨head, rest, split⟩ : ∃ head rest, above ++ [name] = head :: rest :=
      List.exists_cons_of_ne_nil (by simp)
    have listed : head ∈ tree.namesAt walk.root := by
      rw [FileTree.mem_namesAt]
      refine wellFormed.isSome_of_prefix directory ⟨rest, ?_⟩
      rw [split, List.append_assoc]
      rfl
    have bound := FileTree.le_depth (FileTree.mem_of_entry (by simp) directory)
    simp only [List.length_append, List.length_singleton] at bound
    exact course.listable wellFormed directory enters split listed (by omega)

private theorem mem_of_greater {first second : String} (listed : second ∈ first :: names)
    (less : first < second) : second ∈ names := by
  refine (List.mem_cons.mp listed).resolve_left ?_
  rintro rfl
  exact String.lt_irrefl _ less

/-- What comes after a passed name in the list of names comes after the head of the list. -/
theorem mem_tail (course : walk.Course yields levels dir names tree passages last)
    {head first second : String} {before : List String}
    (increasing : (head :: names).Pairwise (· < ·)) (member : passage ∈ passages)
    (here : passage.rel = dir ++ [] ++ first :: before) (less : first < second)
    (listed : second ∈ head :: names) : second ∈ names := by
  obtain ⟨name, known, rest, split, -⟩ := course.exists_name member
  obtain ⟨rfl, -⟩ := List.cons.inj (List.append_cancel_left
    (split.symm.trans (here.trans (by rw [List.append_nil]))))
  exact mem_of_greater listed
    (String.lt_trans (List.rel_of_pairwise_cons increasing known) less)

/-- What was written before, under one of the names, is passed. -/
theorem finds_written (course : walk.Course yields levels dir names middle more last)
    (earlier : walk.Chain yields tree passages middle) (wellFormed : tree.WellFormed)
    (allowed : ∀ now content, FileTree.entry? now (walk.root ++ rel) = some (.file content) →
      Walk.Admits { walk with tree := now } rel)
    (short : rel.length ≤ dir.length + 1 + levels) (member : passage ∈ passages)
    (writes : walk.Writes (walk.root ++ rel) passage code) {after : List String}
    (there : rel = dir ++ name :: after) (listed : name ∈ names) :
    ∃ other ∈ more, other.rel = rel := by
  obtain ⟨_, -, written, -, held⟩ :=
    heldAfter_of_writes (tree.content? (walk.root ++ rel)) member writes
  rw [← earlier.content, FileTree.content_eq_some_iff] at held
  refine course.finds (earlier.wellFormed wellFormed) (allowed _ _ held) there listed ?_
  rw [there, List.length_append, List.length_cons] at short
  omega

/-- If what is written lies ahead, under a name that is there already, the walk comes to it. -/
theorem meets (course : walk.Course yields levels dir names tree passages last)
    (wellFormed : tree.WellFormed) (increasing : names.Pairwise (· < ·))
    (allowed : ∀ now content, FileTree.entry? now (walk.root ++ rel) = some (.file content) →
      Walk.Admits { walk with tree := now } rel)
    (short : rel.length ≤ dir.length + 1 + levels)
    (member : passage ∈ passages) (writes : walk.Writes (walk.root ++ rel) passage code)
    {front before after : List String} {first second : String}
    (here : passage.rel = dir ++ front ++ first :: before)
    (there : rel = dir ++ front ++ second :: after) (less : first < second)
    (stands : (tree.entry? (walk.root ++ (dir ++ front ++ [second]))).isSome)
    (listed : front = [] → second ∈ names) :
    ∃ other ∈ passages, other.rel = rel := by
  induction course generalizing front with
  | done => cases member
  | skipped _ rest ih =>
    refine ih wellFormed increasing.of_cons short member here there stands fun atOnce => ?_
    subst atOnce
    exact rest.mem_tail increasing member here less (listed rfl)
  | @entered _ dir names head tree middle _ _ _ _ _ _ _ _ inner rest deeper later =>
    rcases List.mem_append.mp member with below | after
    · obtain ⟨name, known, more, split, -⟩ := inner.exists_name below
      cases front with
      | nil =>
        -- the two places part in this directory
        rw [List.append_nil] at here there
        have same : head = first := by
          rw [split, List.append_assoc] at here
          exact (List.cons.inj (List.append_cancel_left here)).1
        subst same
        obtain ⟨other, found, equal⟩ := rest.finds_written inner.chain wellFormed allowed short
          below writes there (mem_of_greater (listed rfl) less)
        exact ⟨other, List.mem_append_right _ found, equal⟩
      | cons next front =>
        have same : head = next := by
          rw [split, List.append_assoc, List.append_assoc] at here
          exact (List.cons.inj (List.append_cancel_left here)).1
        subst same
        have way : dir ++ head :: front = dir ++ [head] ++ front := by simp
        rw [way] at here there stands
        obtain ⟨other, found, equal⟩ := deeper wellFormed
          (FileTree.sorted_namesAt wellFormed.distinct) (by simp; omega) below here there stands
          (by rintro rfl; simpa [FileTree.mem_namesAt] using stands)
        exact ⟨other, List.mem_append_left _ found, equal⟩
    · obtain ⟨other, found, equal⟩ := later (inner.chain.wellFormed wellFormed) increasing.of_cons
        short after here there (inner.chain.keepsKinds.isSome stands) (by
          rintro rfl
          exact rest.mem_tail increasing after here less (listed rfl))
      exact ⟨other, List.mem_append_right _ found, equal⟩
  | @passed _ dir names head tree middle _ _ _ _ _ place passes rest ih =>
    rcases List.mem_cons.mp member with rfl | after
    · have parted : front = [] ∧ head = first := by
        cases front with
        | nil =>
          rw [place, List.append_nil] at here
          exact ⟨rfl, (List.cons.inj (List.append_cancel_left here)).1⟩
        | cons next front =>
          rw [place, List.append_assoc] at here
          simpa using (List.cons.inj (List.append_cancel_left here)).2
      obtain ⟨rfl, rfl⟩ := parted
      rw [List.append_nil] at there
      obtain ⟨other, found, equal⟩ := rest.finds_written (.cons passes .nil) wellFormed allowed
        short List.mem_cons_self writes there (mem_of_greater (listed rfl) less)
      exact ⟨other, List.mem_cons_of_mem _ found, equal⟩
    · obtain ⟨other, found, equal⟩ := ih passes.wellFormed increasing.of_cons short after here there
        (passes.keepsKinds.isSome stands) (by
          rintro rfl
          exact rest.mem_tail increasing after here less (listed rfl))
      exact ⟨other, List.mem_cons_of_mem _ found, equal⟩

end Course

end Courses

end Walk

end GrammarEmbed
