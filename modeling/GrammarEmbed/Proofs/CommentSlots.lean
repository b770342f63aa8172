import GrammarEmbed.Layout.Basic

/-!
What a layout does to the comments. Printing takes exactly the comments of the layout's slots out
of the store. A comment that is printed leaves its marks on the text: blanks aside, a text with it
is longer than one without it.
-/

namespace GrammarEmbed

/-- Where comments are printed: before what starts at a position, or behind what ends there. -/
inductive Slot where
  | leading (pos : Nat)
  | trailing (pos : Nat)
deriving DecidableEq

namespace Layout

def slots : Layout → List Slot
  | .leading pos => [.leading pos]
  | .trailing pos | .attached pos => [.trailing pos]
  | .indented body | .guarded _ _ body => body.slots
  | .append first second => first.slots ++ second.slots
  | .empty | .text _ | .line | .commaIn .. | .lineIfLeading _ => []

/-- The positions at which a layout asks for comments without printing them. -/
def watched : Layout → List Nat
  | .lineIfLeading pos => [pos]
  | .guarded pos _ body => pos :: body.watched
  | .indented body => body.watched
  | .append first second => first.watched ++ second.watched
  | .empty | .text _ | .line | .leading _ | .trailing _ | .attached _ | .commaIn .. => []

@[simp] theorem slots_append (first second : Layout) :
    (first ++ second).slots = first.slots ++ second.slots :=
  rfl

@[simp] theorem slots_concat (parts : List Layout) :
    (concat parts).slots = parts.flatMap slots := by
  induction parts with
  | nil => rfl
  | cons part rest ih => rw [concat, slots_append, ih, List.flatMap_cons]

end Layout

namespace Comments

/-- The comments that stand at none of the slots. -/
def beyond (comments : Comments) (slots : List Slot) : Comments :=
  { comments with
    leading := comments.leading.filter fun entry => decide (Slot.leading entry.1 ∉ slots)
    trailing := comments.trailing.filter fun entry => decide (Slot.trailing entry.1 ∉ slots) }

theorem beyond_append (comments : Comments) (first second : List Slot) :
    comments.beyond (first ++ second) = (comments.beyond first).beyond second := by
  simp [beyond, List.filter_filter, Bool.and_comm]

theorem beyond_eq_self_iff {comments : Comments} {slots : List Slot} :
    comments.beyond slots = comments ↔
      (∀ entry ∈ comments.leading, Slot.leading entry.1 ∉ slots) ∧
        ∀ entry ∈ comments.trailing, Slot.trailing entry.1 ∉ slots := by
  obtain ⟨leading, trailing, source⟩ := comments
  simp only [beyond, mk.injEq, List.filter_eq_self, decide_eq_true_eq, and_true]

theorem beyond_append_eq_self_iff {comments : Comments} {first second : List Slot} :
    comments.beyond (first ++ second) = comments ↔
      comments.beyond first = comments ∧ comments.beyond second = comments := by
  simp only [beyond_eq_self_iff, List.mem_append, not_or, forall_and]
  exact and_and_and_comm

@[simp] theorem beyond_nil (comments : Comments) : comments.beyond [] = comments := by
  simp [beyond_eq_self_iff]

theorem beyond_leading (comments : Comments) (pos : Nat) :
    comments.beyond [.leading pos] = (comments.takeLeading pos).2 := by
  have leading (entry : Nat × Comment) :
      decide (Slot.leading entry.1 ∉ [.leading pos]) = (entry.1 != pos) := by
    by_cases same : entry.1 = pos <;> simp [same]
  have trailing : comments.trailing.filter (fun entry =>
      decide (Slot.trailing entry.1 ∉ [Slot.leading pos])) = comments.trailing :=
    List.filter_eq_self.mpr (by simp)
  simp only [beyond, leading, trailing]
  rfl

theorem beyond_trailing (comments : Comments) (pos : Nat) :
    comments.beyond [.trailing pos] = (comments.takeTrailing pos).2 := by
  have trailing (entry : Nat × Comment) :
      decide (Slot.trailing entry.1 ∉ [.trailing pos]) = (entry.1 != pos) := by
    by_cases same : entry.1 = pos <;> simp [same]
  have leading : comments.leading.filter (fun entry =>
      decide (Slot.leading entry.1 ∉ [Slot.trailing pos])) = comments.leading :=
    List.filter_eq_self.mpr (by simp)
  simp only [beyond, leading, trailing]
  rfl

/-- Slots that were emptied before hold nothing any more. -/
theorem beyond_beyond_of_subset (comments : Comments) {all some : List Slot} (subset : some ⊆ all) :
    (comments.beyond all).beyond some = comments.beyond all := by
  apply beyond_eq_self_iff.mpr
  constructor
  · intro entry member inside
    obtain ⟨-, outside⟩ := List.mem_filter.mp member
    exact of_decide_eq_true outside (subset inside)
  · intro entry member inside
    obtain ⟨-, outside⟩ := List.mem_filter.mp member
    exact of_decide_eq_true outside (subset inside)

def size (comments : Comments) : Nat :=
  comments.leading.length + comments.trailing.length

theorem length_at_without (pos : Nat) (entries : List (Nat × Comment)) :
    (at_ pos entries).length + (without pos entries).length = entries.length := by
  have split := List.length_eq_countP_add_countP (fun entry : Nat × Comment => entry.1 == pos)
    (l := entries)
  have others : (fun entry : Nat × Comment => decide ¬(entry.1 == pos) = true) =
      fun entry => entry.1 != pos := by
    funext entry
    by_cases same : entry.1 = pos <;> simp [same]
  rw [at_, without, List.length_map, split, others, List.countP_eq_length_filter,
    List.countP_eq_length_filter]

/-- What is taken from a position is missing from the store. -/
theorem size_takeLeading (comments : Comments) (pos : Nat) :
    (comments.takeLeading pos).1.length + (comments.takeLeading pos).2.size = comments.size := by
  have all := length_at_without pos comments.leading
  simp only [takeLeading, size]
  omega

theorem size_takeTrailing (comments : Comments) (pos : Nat) :
    (comments.takeTrailing pos).1.length + (comments.takeTrailing pos).2.size =
      comments.size := by
  have all := length_at_without pos comments.trailing
  simp only [takeTrailing, size]
  omega

/-- A store that keeps its size keeps its comments. -/
theorem beyond_eq_of_size {comments : Comments} {slots : List Slot}
    (full : comments.size ≤ (comments.beyond slots).size) : comments.beyond slots = comments := by
  have shorter := List.length_filter_le (fun entry => decide (Slot.leading entry.1 ∉ slots))
    comments.leading
  have shorter' := List.length_filter_le (fun entry => decide (Slot.trailing entry.1 ∉ slots))
    comments.trailing
  simp only [size, beyond] at full
  apply beyond_eq_self_iff.mpr
  constructor
  · have same := List.length_filter_eq_length_iff.mp (Nat.le_antisymm shorter (by omega))
    simpa using same
  · have same := List.length_filter_eq_length_iff.mp (Nat.le_antisymm shorter' (by omega))
    simpa using same

/-- A store of some of the comments of another one. -/
structure Within (some all : Comments) : Prop where
  leading : some.leading ⊆ all.leading
  trailing : some.trailing ⊆ all.trailing
  source : some.source = all.source

theorem within_beyond (comments : Comments) (slots : List Slot) :
    (comments.beyond slots).Within comments :=
  ⟨List.filter_sublist.subset, List.filter_sublist.subset, rfl⟩

theorem Within.at_subset {some all : Comments} (within : some.Within all) (pos : Nat) :
    at_ pos some.leading ⊆ at_ pos all.leading := by
  intro c member
  obtain ⟨entry, found, rfl⟩ := List.mem_map.mp member
  obtain ⟨stored, here⟩ := List.mem_filter.mp found
  exact List.mem_map.mpr ⟨entry, List.mem_filter.mpr ⟨within.leading stored, here⟩, rfl⟩

/-- A store of some of the comments holds nothing where the other one holds nothing. -/
theorem Within.clear {some all : Comments} {slots : List Slot} (within : some.Within all)
    (clear : all.beyond slots = all) : some.beyond slots = some := by
  obtain ⟨leading, trailing⟩ := beyond_eq_self_iff.mp clear
  apply beyond_eq_self_iff.mpr
  constructor
  · intro entry member
    exact leading entry (within.leading member)
  · intro entry member
    exact trailing entry (within.trailing member)

theorem hasLeading_eq (comments : Comments) (pos : Nat) :
    comments.hasLeading pos = !(at_ pos comments.leading).isEmpty := by
  unfold hasLeading at_
  induction comments.leading with
  | nil => rfl
  | cons entry rest ih => by_cases here : entry.1 = pos <;> simp [here, ih]

/-- Comments that stand at none of the slots stay within a store when those are emptied. -/
theorem Within.beyond {some all : Comments} {slots : List Slot} (within : some.Within all)
    (clear : some.beyond slots = some) : some.Within (all.beyond slots) := by
  refine ⟨?_, ?_, within.source⟩
  · intro entry member
    have kept : entry ∈ (some.beyond slots).leading := by rwa [clear]
    exact List.mem_filter.mpr ⟨within.leading member, (List.mem_filter.mp kept).2⟩
  · intro entry member
    have kept : entry ∈ (some.beyond slots).trailing := by rwa [clear]
    exact List.mem_filter.mpr ⟨within.trailing member, (List.mem_filter.mp kept).2⟩

end Comments

namespace Writer

theorem comments_foldl {put : Writer → Comment → Writer}
    (kept : ∀ w c, (put w c).comments = w.comments) (w : Writer) (taken : List Comment) :
    (taken.foldl put w).comments = w.comments := by
  induction taken generalizing w with
  | nil => rfl
  | cons c rest ih => rw [List.foldl_cons, ih, kept]

theorem comments_putLeading (w : Writer) (pos : Nat) :
    (w.putLeading pos).comments = w.comments.beyond [.leading pos] := by
  rw [putLeading, comments_foldl comments_putComment]
  exact (w.comments.beyond_leading pos).symm

theorem comments_putTrailing (w : Writer) (pos : Nat) :
    (w.putTrailing pos).comments = w.comments.beyond [.trailing pos] := by
  rw [putTrailing, comments_foldl (by simp)]
  exact (w.comments.beyond_trailing pos).symm

theorem comments_putAttached (w : Writer) (pos : Nat) :
    (w.putAttached pos).comments = w.comments.beyond [.trailing pos] := by
  rw [putAttached, comments_foldl comments_putComment]
  exact (w.comments.beyond_trailing pos).symm

/-- Printing takes the comments of the slots and no others. -/
theorem comments_run (w : Writer) (layout : Layout) :
    (w.run layout).comments = w.comments.beyond layout.slots := by
  induction layout generalizing w with
  | empty | text | line => simp [run, Layout.slots]
  | indented body ih =>
    rw [run, Layout.slots]
    exact ih _
  | append first second ih ih' => rw [run, ih', ih, Layout.slots, Comments.beyond_append]
  | leading pos => exact w.comments_putLeading pos
  | trailing pos => exact w.comments_putTrailing pos
  | attached pos => exact w.comments_putAttached pos
  | commaIn | lineIfLeading =>
    rw [run, Layout.slots, Comments.beyond_nil]
    split <;> simp
  | guarded pos isEnough body ih =>
    rw [run, Layout.slots]
    split <;> simp [ih]

/-- The characters of a text that are no blanks. -/
def marks (text : String) : Nat :=
  text.toList.countP fun c => c != ' ' && c != '\n'

theorem marks_append (first second : String) :
    marks (first ++ second) = marks first + marks second := by
  simp [marks]

theorem marks_indentation (level : Nat) : marks (indentation level) = 0 := by
  induction level with
  | zero => rfl
  | succ level ih => rw [indentation, marks_append, ih]; rfl

theorem marks_put (w : Writer) (s : String) :
    marks (w.put s).written = marks w.written + marks s := by
  unfold put
  split
  · rename_i empty
    obtain rfl := String.isEmpty_iff.mp empty
    rfl
  · split <;> simp [marks_append, marks_indentation]

theorem marks_endLine (w : Writer) : marks w.endLine.written = marks w.written := by
  unfold endLine
  split
  · rfl
  · rw [marks_append]
    rfl

/-- A comment has delimiters. -/
theorem marks_putComment (w : Writer) (c : Comment) :
    marks w.written < marks (w.putComment c).written := by
  have line : marks "//" = 2 := rfl
  have block : marks "/*" = 2 := rfl
  unfold putComment
  split
  · rw [marks_endLine, marks_put, marks_append]
    omega
  · rw [marks_put, marks_append, marks_append]
    omega

theorem marks_foldl {put : Writer → Comment → Writer}
    (more : ∀ w c, marks w.written < marks (put w c).written) (w : Writer) (taken : List Comment) :
    marks w.written + taken.length ≤ marks (taken.foldl put w).written := by
  induction taken generalizing w with
  | nil => exact Nat.le_refl _
  | cons c rest ih =>
    have here := more w c
    have later := ih (put w c)
    simp only [List.foldl_cons, List.length_cons]
    omega

theorem marks_putLeading (w : Writer) (pos : Nat) :
    marks w.written + w.comments.size ≤
      marks (w.putLeading pos).written + (w.putLeading pos).comments.size := by
  have more : marks w.written + (w.comments.takeLeading pos).1.length ≤
      marks (w.putLeading pos).written :=
    marks_foldl marks_putComment { w with comments := (w.comments.takeLeading pos).2 } _
  have taken := w.comments.size_takeLeading pos
  rw [comments_putLeading, Comments.beyond_leading]
  omega

theorem marks_putTrailing (w : Writer) (pos : Nat) :
    marks w.written + w.comments.size ≤
      marks (w.putTrailing pos).written + (w.putTrailing pos).comments.size := by
  have spaced (w : Writer) (c : Comment) :
      marks w.written < marks ((w.put " ").putComment c).written :=
    calc marks w.written
      _ ≤ marks w.written + marks " " := Nat.le_add_right _ _
      _ = marks (w.put " ").written := (marks_put w " ").symm
      _ < marks ((w.put " ").putComment c).written := marks_putComment _ c
  have more : marks w.written + (w.comments.takeTrailing pos).1.length ≤
      marks (w.putTrailing pos).written :=
    marks_foldl spaced { w with comments := (w.comments.takeTrailing pos).2 } _
  have taken := w.comments.size_takeTrailing pos
  rw [comments_putTrailing, Comments.beyond_trailing]
  omega

theorem marks_putAttached (w : Writer) (pos : Nat) :
    marks w.written + w.comments.size ≤
      marks (w.putAttached pos).written + (w.putAttached pos).comments.size := by
  have more : marks w.written + (w.comments.takeTrailing pos).1.length ≤
      marks (w.putAttached pos).written :=
    marks_foldl marks_putComment { w with comments := (w.comments.takeTrailing pos).2 } _
  have taken := w.comments.size_takeTrailing pos
  rw [comments_putAttached, Comments.beyond_trailing]
  omega

theorem putLeading_of_clear {w : Writer} {pos : Nat}
    (clear : w.comments.beyond [.leading pos] = w.comments) : w.putLeading pos = w := by
  have taken := w.comments.size_takeLeading pos
  rw [Comments.beyond_leading] at clear
  rw [clear] at taken
  have none : (w.comments.takeLeading pos).1 = [] := List.length_eq_zero_iff.mp (by omega)
  simp only [putLeading, none, clear, List.foldl_nil]

theorem putTrailing_of_clear {w : Writer} {pos : Nat}
    (clear : w.comments.beyond [.trailing pos] = w.comments) :
    w.putTrailing pos = w ∧ w.putAttached pos = w := by
  have taken := w.comments.size_takeTrailing pos
  rw [Comments.beyond_trailing] at clear
  rw [clear] at taken
  have none : (w.comments.takeTrailing pos).1 = [] := List.length_eq_zero_iff.mp (by omega)
  simp only [putTrailing, putAttached, none, clear, List.foldl_nil, and_self]

section Guarded

variable {w bare full : Writer} {pos : Nat} {isEnough : Bool} {body : Layout}

/-- A comment at the position makes parentheses necessary. -/
def forces (w : Writer) (pos : Nat) (isEnough : Bool) : Bool :=
  (Comments.at_ pos w.comments.leading).any fun c => isEnough || breaksLine c

theorem run_guarded_forced (forced : w.forces pos isEnough = true) :
    w.run (.guarded pos isEnough body) = ((w.put "(").run body).put ")" :=
  if_pos forced

theorem run_guarded_free (free : ¬ w.forces pos isEnough = true) :
    w.run (.guarded pos isEnough body) = (w.put " ").run body :=
  if_neg free

theorem forces_of_within (within : bare.comments.Within full.comments)
    (forced : bare.forces pos isEnough = true) : full.forces pos isEnough = true := by
  obtain ⟨c, found, breaks⟩ := List.any_eq_true.mp forced
  exact List.any_eq_true.mpr ⟨c, within.at_subset pos found, breaks⟩

/-- Parentheses need a comment, and the fuller store has it, too. -/
theorem marks_run_guarded_le (pos : Nat) (isEnough : Bool)
    (within : bare.comments.Within full.comments)
    (inner : ∀ s t, marks ((bare.put s).run body).written + marks (full.put t).written +
        (full.put t).comments.size ≤
      marks ((full.put t).run body).written + marks (bare.put s).written +
        ((full.put t).run body).comments.size) :
    marks (bare.run (.guarded pos isEnough body)).written + marks full.written +
        full.comments.size ≤
      marks (full.run (.guarded pos isEnough body)).written + marks bare.written +
        (full.run (.guarded pos isEnough body)).comments.size := by
  simp only [marks_put, comments_put] at inner
  have parenthesis : marks "(" = 1 := rfl
  have blank : marks " " = 0 := rfl
  by_cases forcedFull : full.forces pos isEnough = true
  · rw [run_guarded_forced forcedFull, marks_put, comments_put]
    by_cases forcedBare : bare.forces pos isEnough = true
    · have step := inner "(" "("
      rw [run_guarded_forced forcedBare, marks_put]
      omega
    · have step := inner " " "("
      rw [run_guarded_free forcedBare]
      omega
  · have freeBare := mt (forces_of_within within) forcedFull
    have step := inner " " " "
    rw [run_guarded_free forcedFull, run_guarded_free freeBare]
    omega

end Guarded

/-- A writer with more comments writes more marks: at least one for every comment that it takes,
compared with a writer that has none of the comments at the slots. -/
theorem marks_run_le (layout : Layout) (bare full : Writer)
    (within : bare.comments.Within full.comments)
    (clear : bare.comments.beyond layout.slots = bare.comments) :
    marks (bare.run layout).written + marks full.written + full.comments.size ≤
      marks (full.run layout).written + marks bare.written + (full.run layout).comments.size := by
  induction layout generalizing bare full with
  | empty =>
    simp only [run]
    omega
  | text s =>
    simp only [run, marks_put, comments_put]
    omega
  | line =>
    simp only [run, marks_endLine, comments_endLine]
    omega
  | indented body ih =>
    exact ih { bare with level := bare.level + 1 } { full with level := full.level + 1 } within
      clear
  | append first second ih ih' =>
    obtain ⟨front, back⟩ := Comments.beyond_append_eq_self_iff.mp clear
    have one := ih bare full within front
    have two := ih' (bare.run first) (full.run first)
      (by rw [comments_run, comments_run, front]; exact within.beyond front)
      (by rw [comments_run, front]; exact back)
    simp only [run]
    omega
  | leading pos =>
    have same : bare.run (.leading pos) = bare := putLeading_of_clear clear
    have more := full.marks_putLeading pos
    rw [same, run]
    omega
  | trailing pos =>
    have same : bare.run (.trailing pos) = bare := (putTrailing_of_clear clear).1
    have more := full.marks_putTrailing pos
    rw [same, run]
    omega
  | attached pos =>
    have same : bare.run (.attached pos) = bare := (putTrailing_of_clear clear).2
    have more := full.marks_putAttached pos
    rw [same, run]
    omega
  | commaIn lo hi =>
    have same : bare.comments.endsInComma lo hi = full.comments.endsInComma lo hi := by
      rw [Comments.endsInComma, within.source]
      rfl
    simp only [run, same]
    split
    · simp only [marks_put, comments_put]
      omega
    · omega
  | lineIfLeading pos =>
    have quiet (w : Writer) : marks (w.run (.lineIfLeading pos)).written = marks w.written := by
      rw [run]
      split
      · exact marks_endLine w
      · rfl
    rw [quiet, quiet, comments_run, Layout.slots, Comments.beyond_nil]
    omega
  | guarded pos isEnough body ih =>
    refine marks_run_guarded_le pos isEnough within fun s t => ?_
    have clearBody : bare.comments.beyond body.slots = bare.comments := clear
    exact ih (bare.put s) (full.put t) (by simpa only [comments_put] using within)
      (by simpa only [comments_put] using clearBody)

section Holding

def holding (w : Writer) (comments : Comments) : Writer :=
  { w with comments }

variable {w : Writer} {all : Comments}

theorem put_holding (s : String) : (w.holding all).put s = (w.put s).holding all := by
  unfold put holding
  split
  · rfl
  · split <;> rfl

theorem endLine_holding : (w.holding all).endLine = w.endLine.holding all := by
  unfold endLine holding
  split <;> rfl

/-- Comments that stand at no slot make a difference only where a layout asks for them. -/
theorem run_holding (layout : Layout) (within : w.comments.Within all)
    (clear : all.beyond layout.slots = all)
    (asked : ∀ pos ∈ layout.watched,
      Comments.at_ pos w.comments.leading = Comments.at_ pos all.leading) :
    (w.holding all).run layout = (w.run layout).holding all := by
  induction layout generalizing w with
  | empty => rfl
  | text s => exact put_holding s
  | line => exact endLine_holding
  | indented body ih =>
    have inner := ih (w := { w with level := w.level + 1 }) within clear asked
    have level : { w.holding all with level := w.level + 1 } =
        holding { w with level := w.level + 1 } all := rfl
    simp only [run]
    rw [show (w.holding all).level = w.level from rfl, level, inner]
    rfl
  | append first second ih ih' =>
    obtain ⟨front, back⟩ := Comments.beyond_append_eq_self_iff.mp clear
    have kept : (w.run first).comments = w.comments := by
      rw [comments_run, within.clear front]
    have one := ih within front fun pos member => asked pos (List.mem_append_left _ member)
    simp only [run]
    rw [one]
    refine ih' (by rwa [kept]) back fun pos member => ?_
    rw [kept]
    exact asked pos (List.mem_append_right _ member)
  | leading pos =>
    have same : w.run (.leading pos) = w := putLeading_of_clear (within.clear clear)
    rw [same]
    exact putLeading_of_clear clear
  | trailing pos =>
    have same : w.run (.trailing pos) = w := (putTrailing_of_clear (within.clear clear)).1
    rw [same]
    exact (putTrailing_of_clear clear).1
  | attached pos =>
    have same : w.run (.attached pos) = w := (putTrailing_of_clear (within.clear clear)).2
    rw [same]
    exact (putTrailing_of_clear clear).2
  | commaIn lo hi =>
    have same : (w.holding all).comments.endsInComma lo hi = w.comments.endsInComma lo hi := by
      simp only [Comments.endsInComma, within.source, holding]
    simp only [run, same]
    split
    · exact put_holding ", "
    · rfl
  | lineIfLeading pos =>
    have same : (w.holding all).comments.hasLeading pos = w.comments.hasLeading pos := by
      rw [Comments.hasLeading_eq, Comments.hasLeading_eq, asked pos List.mem_cons_self]
      rfl
    simp only [run, same]
    split
    · exact endLine_holding
    · rfl
  | guarded pos isEnough body ih =>
    have same : (w.holding all).forces pos isEnough = w.forces pos isEnough := by
      rw [forces, forces, asked pos List.mem_cons_self]
      rfl
    have inner (s : String) :
        ((w.holding all).put s).run body = ((w.put s).run body).holding all := by
      rw [put_holding]
      refine ih (by rwa [comments_put]) clear fun pos member => ?_
      rw [comments_put]
      exact asked pos (List.mem_cons_of_mem _ member)
    by_cases forced : w.forces pos isEnough = true
    · rw [run_guarded_forced forced, run_guarded_forced (same.trans forced), inner, put_holding]
    · rw [run_guarded_free forced, run_guarded_free (by rwa [same]), inner]

end Holding

end Writer

end GrammarEmbed
