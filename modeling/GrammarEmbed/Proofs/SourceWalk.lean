import Mathlib.Data.List.TakeDrop
import Mathlib.Data.List.TakeWhile
import GrammarEmbed.Files
import GrammarEmbed.Proofs.MadeDirectories

namespace GrammarEmbed

open GrammarEmbed.Path

namespace Path

theorem isHidden_iff {name : String} : isHidden name = true ↔ ∃ rest, name = "." ++ rest := by
  simp only [isHidden, beq_iff_eq]
  constructor
  · intro first
    cases chars : name.toList with
    | nil => simp [chars] at first
    | cons c rest =>
      obtain rfl : c = '.' := by simpa [chars] using first
      exact ⟨String.ofList rest, String.toList_inj.mp (by simp [chars])⟩
  · rintro ⟨rest, rfl⟩
    simp

theorem extension_of_no_dot {name : String} (plain : '.' ∉ name.toList) :
    extension? name = none := by
  have all : ∀ c ∈ name.toList.reverse, (c != '.') = true := by
    intro c member
    simpa using fun same : c = '.' => plain (by simpa [same] using member)
  have rest : name.toList.reverse.dropWhile (fun c => c != '.') = [] :=
    List.dropWhile_eq_nil_iff.mpr all
  simp [extension?, List.span_eq_takeWhile_dropWhile, rest]

theorem extension_of_dot {front extension : String} (last : '.' ∉ extension.toList) :
    extension? (front ++ "." ++ extension) =
      if front ++ "." ++ extension = ".." ∨ front = "" then none else some extension := by
  have all : ∀ c ∈ extension.toList.reverse, (c != '.') = true := by
    intro c member
    simpa using fun same : c = '.' => last (by simpa [same] using member)
  have split : (front ++ "." ++ extension).toList.reverse =
      extension.toList.reverse ++ '.' :: front.toList.reverse := by simp
  have parts : (front ++ "." ++ extension).toList.reverse.span (fun c => c != '.') =
      (extension.toList.reverse, '.' :: front.toList.reverse) := by
    rw [split, List.span_eq_takeWhile_dropWhile, List.takeWhile_append_of_pos all,
      List.dropWhile_append_of_pos all]
    simp
  unfold extension?
  rw [parts]
  cases chars : front.toList.reverse with
  | nil =>
    obtain rfl : front = "" := String.toList_eq_nil_iff.mp (by simpa using chars)
    simp
  | cons c rest =>
    have filled : front ≠ "" := by
      rintro rfl
      cases chars
    simp [filled]

/-- The extension of a name stands behind its last dot, if anything stands before that dot. -/
theorem extension_eq_some_iff {name extension : String} :
    extension? name = some extension ↔ name ≠ ".." ∧ '.' ∉ extension.toList ∧
      ∃ front, front ≠ "" ∧ name = front ++ "." ++ extension := by
  constructor
  · intro given
    by_cases dotted : '.' ∈ name.toList.reverse
    · obtain ⟨after, before, split, free⟩ := List.eq_append_cons_of_mem dotted
      obtain rfl : name = String.ofList before.reverse ++ "." ++ String.ofList after.reverse := by
        refine String.toList_inj.mp (List.reverse_inj.mp ?_)
        simp [split]
      rw [extension_of_dot (by simpa using free)] at given
      split at given
      · cases given
      · rename_i proper
        obtain ⟨notAbove, filled⟩ := not_or.mp proper
        obtain rfl := Option.some.inj given
        exact ⟨notAbove, by simpa using free, _, filled, rfl⟩
    · rw [extension_of_no_dot (by simpa using dotted)] at given
      cases given
  · rintro ⟨notAbove, last, front, filled, rfl⟩
    rw [extension_of_dot last, if_neg (not_or.mpr ⟨notAbove, filled⟩)]

end Path

theorem FilePrecompiler.isSource_iff {extensions : List String} {name : String} :
    isSource extensions name = true ↔ name ≠ ".." ∧ ∃ front extension, front ≠ "" ∧
      name = front ++ "." ++ extension ∧ '.' ∉ extension.toList ∧
      ∃ known ∈ extensions, Text.lowerCase known = Text.lowerCase extension := by
  unfold isSource
  cases given : extension? name with
  | none =>
    simp only [Bool.false_eq_true, false_iff]
    rintro ⟨notAbove, front, extension, filled, split, last, -⟩
    cases given.symm.trans (extension_eq_some_iff.mpr ⟨notAbove, last, front, filled, split⟩)
  | some extension =>
    simp only [List.any_eq_true, beq_iff_eq]
    constructor
    · intro known
      obtain ⟨notAbove, last, front, filled, split⟩ := extension_eq_some_iff.mp given
      exact ⟨notAbove, front, extension, filled, split, last, known⟩
    · rintro ⟨notAbove, front, other, filled, split, last, known⟩
      have same := given.symm.trans
        (extension_eq_some_iff.mpr ⟨notAbove, last, front, filled, split⟩)
      rwa [Option.some.inj same]

/-- A tree and the places in it that a walk has to know. -/
structure Walk where
  tree : FileTree
  extensions : List String
  /-- Where the walk starts. -/
  root : List String
  /-- Where its output goes. -/
  out : List String

namespace Walk

/-- The walk enters every directory on the way to a place. -/
def Enters (walk : Walk) (rel : List String) : Prop :=
  ∀ above name, above ++ [name] <+: rel → isHidden name = false ∧ name ≠ packageDirectory ∧
    walk.root ++ (above ++ [name]) ≠ walk.out

/-- No directory that the walk enters refuses to be listed. -/
def Listable (walk : Walk) : Prop :=
  ∀ rel, walk.tree.entry? (walk.root ++ rel) = some .directory → walk.Enters rel →
    walk.tree.refuses .read (walk.root ++ rel) = false

/-- A file that a walk has to process: no name on the way to it is hidden, no directory on the way
holds packages or is the output, and it has the extension of a source. -/
structure Admits (walk : Walk) (rel : List String) : Prop where
  file : ∃ content, walk.tree.entry? (walk.root ++ rel) = some (.file content)
  visible : ∀ name ∈ rel, isHidden name = false
  entered : ∀ above name, above ++ [name] <+: rel → above ++ [name] ≠ rel →
    name ≠ packageDirectory ∧ walk.root ++ (above ++ [name]) ≠ walk.out
  source : ∃ dirs name, rel = dirs ++ [name] ∧
    FilePrecompiler.isSource walk.extensions name = true

variable {walk : Walk} {dir rel : List String} {name : String}

theorem enters_nil : walk.Enters [] := by
  intro above name front
  exact absurd front.length_le (by simp)

theorem Enters.concat (entered : walk.Enters dir) (visible : isHidden name = false)
    (notPackages : name ≠ packageDirectory) (notOutput : walk.root ++ (dir ++ [name]) ≠ walk.out) :
    walk.Enters (dir ++ [name]) := by
  intro above last front
  rcases List.prefix_concat_iff.mp front with same | inner
  · obtain ⟨rfl, rfl⟩ := List.append_inj' same rfl |>.imp_right List.singleton_inj.mp
    exact ⟨visible, notPackages, notOutput⟩
  · exact entered above last inner

theorem Admits.of_source {content : Content} (entered : walk.Enters dir)
    (visible : isHidden name = false)
    (file : walk.tree.entry? (walk.root ++ (dir ++ [name])) = some (.file content))
    (source : FilePrecompiler.isSource walk.extensions name = true) :
    walk.Admits (dir ++ [name]) where
  file := ⟨content, file⟩
  visible := by
    intro other member
    rcases List.mem_append.mp member with above | last
    · obtain ⟨before, after, rfl⟩ := List.append_of_mem above
      exact (entered before other ⟨after, List.append_assoc before [other] after⟩).1
    · exact List.mem_singleton.mp last ▸ visible
  entered := by
    intro above last front other
    have inner := (List.prefix_concat_iff.mp front).resolve_left other
    exact (entered above last inner).2
  source := ⟨dir, name, rfl, source⟩

theorem Admits.enters (admitted : walk.Admits (dir ++ [name])) : walk.Enters dir := by
  intro above last front
  have proper : above ++ [last] ≠ dir ++ [name] := by
    intro same
    rw [same] at front
    exact absurd front.length_le (by simp)
  refine ⟨admitted.visible last ?_, admitted.entered above last ?_ proper⟩
  · exact List.mem_append_left _ (front.subset (by simp))
  · exact front.trans (List.prefix_append _ _)

end Walk

/-- A walk comes to the first place before it comes to the second one: the names at which they part
are in that order. -/
def Precedes (first second : List String) : Prop :=
  ∃ front name before other after,
    first = front ++ name :: before ∧ second = front ++ other :: after ∧ name < other

namespace Precedes

variable {first second : List String}

theorem lt (precedes : Precedes first second) : first < second := by
  obtain ⟨front, name, before, other, after, rfl, rfl, less⟩ := precedes
  induction front with
  | nil => exact List.cons_lt_cons_iff.mpr (.inl less)
  | cons _ _ ih => exact List.cons_lt_cons_iff.mpr (.inr ⟨rfl, ih⟩)

theorem ne (precedes : Precedes first second) : first ≠ second := by
  rintro rfl
  exact List.lt_irrefl _ precedes.lt

theorem append (precedes : Precedes first second) (rest : List String) :
    Precedes first (second ++ rest) := by
  obtain ⟨front, name, before, other, after, rfl, rfl, less⟩ := precedes
  exact ⟨front, name, before, other, after ++ rest, rfl, by simp, less⟩

end Precedes

end GrammarEmbed
