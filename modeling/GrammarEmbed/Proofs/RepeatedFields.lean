import GrammarEmbed.Proofs.FieldOrder

namespace GrammarEmbed.Json.Value

def lastField? (key : String) (fields : List (String × Value)) : Option Value :=
  fields.reverse.lookup key

def last? (key : String) : Value → Option Value
  | .obj fields => lastField? key fields
  | _ => none

section Lookup

variable (key : String) (value : Value) (fields : List (String × Value))

theorem lookup_cons_eq_ite (name : String) :
    ((key, value) :: fields).lookup name =
      if name = key then some value else fields.lookup name := by
  rw [List.lookup_cons]
  by_cases same : name = key
  · simp [same]
  · simp [same, beq_false_of_ne same]

theorem lookup_insertField (name : String) :
    (insertField key value fields).lookup name =
      if name = key then some value else fields.lookup name := by
  induction fields with
  | nil => exact lookup_cons_eq_ite key value [] name
  | cons field rest ih =>
    obtain ⟨other, old⟩ := field
    by_cases before : key < other
    · simp only [insertField, before, if_true, lookup_cons_eq_ite]
    · by_cases found : key = other
      · subst found
        simp only [insertField, before, if_false, BEq.rfl, if_true, lookup_cons_eq_ite]
        by_cases same : name = key
        · simp only [same, if_true]
        · simp only [same, if_false]
      · simp only [insertField, before, found, if_false, beq_iff_eq, lookup_cons_eq_ite, ih]
        by_cases same : name = key
        · simp [same, found]
        · simp [same]

theorem lastField?_cons_self :
    lastField? key ((key, value) :: fields) = (lastField? key fields).or (some value) := by
  simp [lastField?, List.lookup_append]

theorem lastField?_cons_ne {name : String} (other : name ≠ key) :
    lastField? name ((key, value) :: fields) = lastField? name fields := by
  simp [lastField?, List.lookup_append, lookup_cons_eq_ite, other]

/-- What is put in later hides what was put in before. -/
theorem lookup_foldl_insertField (sorted : List (String × Value)) :
    (fields.foldl (fun sorted field => insertField field.1 field.2 sorted) sorted).lookup key =
      (lastField? key fields).or (sorted.lookup key) := by
  induction fields generalizing sorted with
  | nil => rfl
  | cons field rest ih =>
    obtain ⟨name, value⟩ := field
    rw [List.foldl_cons, ih, lookup_insertField]
    by_cases same : key = name
    · subst same
      simp [lastField?_cons_self]
    · rw [lastField?_cons_ne name value rest same, if_neg same]

theorem lookup_sortFields : (sortFields fields).lookup key = lastField? key fields := by
  rw [sortFields, lookup_foldl_insertField, List.lookup_nil, Option.or_none]

theorem sortFields_sorted : (sortFields fields).Pairwise fun a b => a.1 < b.1 := by
  have run (sorted : List (String × Value)) (start : sorted.Pairwise fun a b => a.1 < b.1) :
      (fields.foldl (fun sorted field => insertField field.1 field.2 sorted) sorted).Pairwise
        fun a b => a.1 < b.1 := by
    induction fields generalizing sorted with
    | nil => exact start
    | cons field rest ih => exact ih _ (insertField_sorted start)
  exact run [] .nil

theorem lastField?_canonicalFields :
    lastField? key (canonicalFields fields) = (lastField? key fields).map canonical := by
  induction fields with
  | nil => rfl
  | cons field rest ih =>
    obtain ⟨name, value⟩ := field
    rw [canonicalFields]
    by_cases same : key = name
    · subst same
      rw [lastField?_cons_self, lastField?_cons_self, ih, Option.map_or, Option.map_some]
    · rw [lastField?_cons_ne _ _ _ same, lastField?_cons_ne _ _ _ same, ih]

end Lookup

section Sorted

variable {key : String} {value : Value} {fields others : List (String × Value)}

theorem lookup_of_lt (least : ∀ field ∈ fields, key < field.1) : fields.lookup key = none := by
  apply List.lookup_eq_none_iff.mpr
  intro field member
  have less := least field member
  simpa using fun same : key = field.1 => String.lt_irrefl _ (same ▸ less)

/-- Sorted fields are known from the value of each key. -/
theorem eq_of_lookup_eq (sorted : fields.Pairwise fun a b => a.1 < b.1)
    (sortedOthers : others.Pairwise fun a b => a.1 < b.1)
    (same : ∀ key, fields.lookup key = others.lookup key) : fields = others := by
  induction fields generalizing others with
  | nil =>
    cases others with
    | nil => rfl
    | cons other more =>
      obtain ⟨name, given⟩ := other
      exact absurd (same name) (by simp)
  | cons field rest ih =>
    obtain ⟨key, value⟩ := field
    cases others with
    | nil => exact absurd (same key) (by simp)
    | cons other more =>
      obtain ⟨name, given⟩ := other
      obtain ⟨least, sortedRest⟩ := List.pairwise_cons.mp sorted
      obtain ⟨leastOther, sortedMore⟩ := List.pairwise_cons.mp sortedOthers
      have first := same key
      have firstOther := same name
      -- a smaller first key would be missing on the other side
      have keys : key = name := by
        apply Std.le_antisymm <;> apply String.not_lt.mp <;> intro less
        · have missing : ((key, value) :: rest).lookup name = none :=
            lookup_of_lt (List.forall_mem_cons.mpr
              ⟨less, fun field member => String.lt_trans less (least field member)⟩)
          simp [missing] at firstOther
        · have missing : ((name, given) :: more).lookup key = none :=
            lookup_of_lt (List.forall_mem_cons.mpr
              ⟨less, fun field member => String.lt_trans less (leastOther field member)⟩)
          simp [missing] at first
      subst keys
      have values : value = given := by simpa using first
      have tails : rest = more := by
        apply ih sortedRest sortedMore
        intro other
        by_cases self : other = key
        · rw [self, lookup_of_lt least, lookup_of_lt leastOther]
        · simpa [lookup_cons_eq_ite, self] using same other
      rw [values, tails]

theorem lookup_filter (keep : String → Bool) :
    (fields.filter fun field => keep field.1).lookup key =
      if keep key then fields.lookup key else none := by
  induction fields with
  | nil => simp
  | cons field rest ih =>
    obtain ⟨name, given⟩ := field
    rw [List.filter_cons, lookup_cons_eq_ite]
    by_cases same : key = name
    · subst same
      cases kept : keep key <;> simp [kept, ih]
    · cases kept : keep name <;> simp [same, lookup_cons_eq_ite, ih]

end Sorted

/-- The canonical form of an object holds the canonical form of the last value of each key. -/
theorem get?_canonical (key : String) (v : Value) :
    v.canonical.get? key = (v.last? key).map canonical := by
  cases v with
  | obj fields =>
    rw [canonical, get?, lookup_sortFields, lastField?_canonicalFields, last?]
  | null | bool | num | str | arr => rfl

end GrammarEmbed.Json.Value
