import GrammarEmbed.FileTree

namespace GrammarEmbed

namespace Path

structure IsSegment (name : String) : Prop where
  filled : name ≠ ""
  noSlash : '/' ∉ name.toList

/-- A name that an entry can have. The two dotted segments are no names. -/
structure IsName (name : String) : Prop extends IsSegment name where
  notHere : name ≠ "."
  notAbove : name ≠ ".."

instance (name : String) : Decidable (IsName name) :=
  decidable_of_iff ((name ≠ "" ∧ '/' ∉ name.toList) ∧ name ≠ "." ∧ name ≠ "..")
    ⟨fun ⟨⟨filled, noSlash⟩, notHere, notAbove⟩ => ⟨⟨filled, noSlash⟩, notHere, notAbove⟩,
      fun named => ⟨⟨named.filled, named.noSlash⟩, named.notHere, named.notAbove⟩⟩

section Slashes

theorem splitSlashes_ne_nil (chars : List Char) : splitSlashes chars ≠ [] := by
  cases chars with
  | nil => simp [splitSlashes]
  | cons c rest =>
    unfold splitSlashes
    split
    · simp
    · split <;> simp

theorem splitSlashes_append (first second : List Char) :
    splitSlashes (first ++ '/' :: second) = splitSlashes first ++ splitSlashes second := by
  induction first with
  | nil => simp [splitSlashes]
  | cons c rest ih =>
    rw [List.cons_append, splitSlashes, splitSlashes, ih]
    split
    · rfl
    · cases split : splitSlashes rest with
      | nil => exact absurd split (splitSlashes_ne_nil rest)
      | cons name names => rfl

theorem splitSlashes_of_not_mem {chars : List Char} (noSlash : '/' ∉ chars) :
    splitSlashes chars = [chars] := by
  induction chars with
  | nil => rfl
  | cons c rest ih =>
    simp only [List.mem_cons, not_or] at noSlash
    obtain ⟨other, inside⟩ := noSlash
    simp [splitSlashes, ih inside, Ne.symm other]

theorem not_mem_of_mem_splitSlashes {chars part : List Char} (member : part ∈ splitSlashes chars) :
    '/' ∉ part := by
  induction chars generalizing part with
  | nil =>
    obtain rfl := List.mem_singleton.mp member
    simp
  | cons c rest ih =>
    rw [splitSlashes] at member
    split at member
    · rcases List.mem_cons.mp member with rfl | later
      · simp
      · exact ih later
    · rename_i other
      cases split : splitSlashes rest with
      | nil => exact absurd split (splitSlashes_ne_nil rest)
      | cons name names =>
        rw [split] at member ih
        rcases List.mem_cons.mp member with rfl | later
        · have inner := ih List.mem_cons_self
          simp only [List.mem_cons, not_or]
          exact ⟨fun same => other (by simp [← same]), inner⟩
        · exact ih (List.mem_cons_of_mem _ later)

end Slashes

theorem isSegment_of_mem_names {path name : String} (member : name ∈ names path) :
    IsSegment name := by
  obtain ⟨part, kept, rfl⟩ := List.mem_map.mp member
  obtain ⟨split, filled⟩ := List.mem_filter.mp kept
  refine ⟨?_, ?_⟩
  · intro empty
    have none : part = [] := by simpa using congrArg String.toList empty
    simp [none] at filled
  · rw [String.toList_ofList]
    exact not_mem_of_mem_splitSlashes split

theorem names_append (first second : String) :
    names (first ++ "/" ++ second) = names first ++ names second := by
  have chars : (first ++ "/" ++ second).toList = first.toList ++ '/' :: second.toList := by
    simp
  simp only [names, chars, splitSlashes_append, List.filter_append, List.map_append]

theorem names_segment {name : String} (segment : IsSegment name) : names name = [name] := by
  have filled : name.toList ≠ [] := fun empty => segment.filled (String.toList_eq_nil_iff.mp empty)
  simp [names, splitSlashes_of_not_mem segment.noSlash, filled]

theorem names_empty : names "" = [] :=
  rfl

theorem isAbsolute_segment {name : String} (segment : IsSegment name) :
    isAbsolute name = false := by
  cases chars : name.toList with
  | nil => simp [isAbsolute, chars]
  | cons c rest =>
    have first : c ≠ '/' := fun same => segment.noSlash (by rw [chars, same]; simp)
    simp [isAbsolute, chars, first]

theorem endsInSlash_segment {name : String} (segment : IsSegment name) :
    endsInSlash name = false := by
  cases last : name.toList.getLast? with
  | none => simp [endsInSlash, last]
  | some c =>
    have inside : c ∈ name.toList := List.mem_of_getLast? last
    have other : c ≠ '/' := fun same => segment.noSlash (same ▸ inside)
    simp [endsInSlash, last, other]

section Join

theorem isAbsolute_append {first : String} (filled : first ≠ "") (second : String) :
    isAbsolute (first ++ second) = isAbsolute first := by
  cases chars : first.toList with
  | nil => exact absurd (String.toList_eq_nil_iff.mp chars) filled
  | cons c rest => simp [isAbsolute, chars]

theorem endsInSlash_append (first : String) {second : String} (filled : second ≠ "") :
    endsInSlash (first ++ second) = endsInSlash second := by
  cases last : second.toList.getLast? with
  | none => exact absurd (String.toList_eq_nil_iff.mp (List.getLast?_eq_none_iff.mp last)) filled
  | some c => simp [endsInSlash, last]

/-- A slash at the end of a path adds no name. -/
theorem names_append_of_endsInSlash {path : String} (slash : endsInSlash path = true)
    (below : String) : names (path ++ below) = names path ++ names below := by
  have last : path.toList.getLast? = some '/' := by simpa [endsInSlash] using slash
  obtain ⟨chars, split⟩ := List.getLast?_eq_some_iff.mp last
  obtain ⟨front, rfl⟩ : ∃ front, path = front ++ "/" ++ "" :=
    ⟨String.ofList chars, String.toList_inj.mp (by simp [split])⟩
  rw [names_append, names_empty, List.append_nil, String.append_empty, names_append]

variable {directory below : String}

theorem names_join (directory : String) (relative : isAbsolute below = false) :
    names (join directory below) = names directory ++ names below := by
  unfold join
  split
  · rename_i outer
    obtain rfl : directory = "" := by simpa [relative] using outer
    rfl
  · split
    · rename_i slash
      exact names_append_of_endsInSlash slash below
    · exact names_append directory below

theorem join_ne_empty (directory : String) (filled : below ≠ "") : join directory below ≠ "" := by
  unfold join
  split
  · exact filled
  · split <;> simp [filled]

theorem isAbsolute_join (directory : String) (relative : isAbsolute below = false) :
    isAbsolute (join directory below) = isAbsolute directory := by
  unfold join
  split
  · rename_i outer
    obtain rfl : directory = "" := by simpa [relative] using outer
    exact relative
  · rename_i inner
    have filled : directory ≠ "" := by simpa [relative] using inner
    split
    · exact isAbsolute_append filled below
    · rw [String.append_assoc, isAbsolute_append filled]

theorem endsInSlash_join (directory : String) (filled : below ≠ "") :
    endsInSlash (join directory below) = endsInSlash below := by
  unfold join
  split
  · rfl
  · split <;> exact endsInSlash_append _ filled

def joinAll (directory : String) (parts : List String) : String :=
  parts.foldl join directory

theorem joinAll_concat (directory : String) (parts : List String) (name : String) :
    joinAll directory (parts ++ [name]) = join (joinAll directory parts) name := by
  simp [joinAll]

theorem isAbsolute_joinAll (directory : String) {parts : List String}
    (segments : ∀ name ∈ parts, IsSegment name) :
    isAbsolute (joinAll directory parts) = isAbsolute directory := by
  induction parts generalizing directory with
  | nil => rfl
  | cons name rest ih =>
    have later := ih (join directory name)
      fun other member => segments other (List.mem_cons_of_mem _ member)
    have here := isAbsolute_segment (segments name List.mem_cons_self)
    rwa [isAbsolute_join directory here] at later

theorem names_joinAll (directory : String) {parts : List String}
    (segments : ∀ name ∈ parts, IsSegment name) :
    names (joinAll directory parts) = names directory ++ parts := by
  induction parts generalizing directory with
  | nil => simp [joinAll]
  | cons name rest ih =>
    have here := segments name List.mem_cons_self
    have later := ih (join directory name)
      fun other member => segments other (List.mem_cons_of_mem _ member)
    rw [names_join directory (isAbsolute_segment here), names_segment here] at later
    simpa [joinAll] using later

end Join

section Names

variable {parts : List String} (segments : ∀ name ∈ parts, IsSegment name)

include segments

theorem names_intercalate : names ("/".intercalate parts) = parts := by
  induction parts with
  | nil => rfl
  | cons name rest ih =>
    have here := names_segment (segments name List.mem_cons_self)
    have later := ih fun other member => segments other (List.mem_cons_of_mem _ member)
    cases rest with
    | nil => exact here
    | cons => rw [String.intercalate_cons_cons, names_append, here, later, List.singleton_append]

theorem isAbsolute_intercalate : isAbsolute ("/".intercalate parts) = false := by
  cases parts with
  | nil => rfl
  | cons name rest =>
    have first := segments name List.mem_cons_self
    cases rest with
    | nil => exact isAbsolute_segment first
    | cons =>
      rw [String.intercalate_cons_cons, String.append_assoc, isAbsolute_append first.filled]
      exact isAbsolute_segment first

end Names

section Spelling

/-- The path of some names, from the root or from the working directory. -/
def spell (absolute : Bool) (parts : List String) : String :=
  (if absolute then "/" else "") ++ "/".intercalate parts

variable {absolute : Bool} {parts : List String} (segments : ∀ name ∈ parts, IsSegment name)

include segments

theorem names_spell : names (spell absolute parts) = parts := by
  cases absolute with
  | false => simpa [spell] using names_intercalate segments
  | true =>
    have split : spell true parts = "" ++ "/" ++ "/".intercalate parts := by simp [spell]
    rw [split, names_append, names_empty, names_intercalate segments, List.nil_append]

theorem isAbsolute_spell : isAbsolute (spell absolute parts) = absolute := by
  cases absolute with
  | false => simpa [spell] using isAbsolute_intercalate segments
  | true => exact isAbsolute_append (by decide) _

theorem spell_ne_empty (filled : parts ≠ []) : spell absolute parts ≠ "" := by
  intro empty
  have same : names (spell absolute parts) = parts := names_spell segments
  rw [empty, names_empty] at same
  exact filled same.symm

end Spelling

/-- The names of a path without those that stay where they are. -/
def steps (path : String) : List String :=
  (names path).filter fun name => name != "."

theorem isSegment_of_mem_steps {path name : String} (member : name ∈ steps path) :
    IsSegment name :=
  isSegment_of_mem_names (List.mem_filter.mp member).1

theorem parent_eq {path : String} (filled : path ≠ "") (moving : steps path ≠ []) :
    parent? path = some (spell (isAbsolute path) (steps path).dropLast) := by
  have inside : ((names path).filter fun name => name != ".").isEmpty = false :=
    List.isEmpty_eq_false_iff.mpr moving
  unfold parent?
  cases isAbsolute path with
  | true => simp only [inside, if_true, Bool.false_eq_true, if_false]; rfl
  | false => simp [filled, spell, steps]

theorem steps_spell {absolute : Bool} {parts : List String}
    (segments : ∀ name ∈ parts, IsSegment name) (moving : "." ∉ parts) :
    steps (spell absolute parts) = parts := by
  rw [steps, names_spell segments, List.filter_eq_self]
  intro name member
  simpa using fun same : name = "." => moving (same ▸ member)

end Path

namespace FileTree

open GrammarEmbed.Path

/-- The directories from the one that the names lead to up to the first, as paths. -/
def climb (absolute : Bool) (parts : List String) : List String :=
  (List.range parts.length).map fun dropped => spell absolute (parts.take (parts.length - dropped))

theorem lineage_eq (path : String) : lineage path = climb (isAbsolute path) (steps path) :=
  rfl

theorem climb_concat (absolute : Bool) (parts : List String) (name : String) :
    climb absolute (parts ++ [name]) =
      spell absolute (parts ++ [name]) :: climb absolute parts := by
  have whole : (parts ++ [name]).take (parts.length + 1) = parts ++ [name] :=
    List.take_of_length_le (by simp)
  have above (dropped : Nat) : (parts ++ [name]).take (parts.length + 1 - (dropped + 1)) =
      parts.take (parts.length - dropped) := by
    rw [Nat.add_sub_add_right, List.take_append_of_le_length (Nat.sub_le _ _)]
  simp only [climb, List.length_append, List.length_singleton, List.range_succ_eq_map,
    List.map_cons, List.map_map, Nat.sub_zero, whole, Function.comp_def, Nat.succ_eq_add_one, above]

end FileTree

end GrammarEmbed
