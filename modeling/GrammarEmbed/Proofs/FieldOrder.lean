import GrammarEmbed.Proofs.WrittenJson

/-!
The order of fields. A JSON object means the same in whatever order its fields are written, and the
canonical form is the one that lists them by key.
-/

namespace GrammarEmbed.Json.Value

/-- The fields of every object stand in increasing order of their keys, and none stands twice. -/
inductive Ordered : Value → Prop where
  | null : Ordered .null
  | bool (b : Bool) : Ordered (.bool b)
  | num (n : Number) : Ordered (.num n)
  | str (s : String) : Ordered (.str s)
  | arr {items : List Value} (each : ∀ item ∈ items, Ordered item) : Ordered (.arr items)
  | obj {fields : List (String × Value)} (sorted : fields.Pairwise fun a b => a.1 < b.1)
      (each : ∀ field ∈ fields, Ordered field.2) : Ordered (.obj fields)

/-- The same value, with the fields of its objects written in another order. -/
inductive Reordered : Value → Value → Prop where
  | same (v : Value) : Reordered v v
  | arr {pairs : List (Value × Value)} (each : ∀ pair ∈ pairs, Reordered pair.1 pair.2) :
      Reordered (.arr (pairs.map Prod.fst)) (.arr (pairs.map Prod.snd))
  | obj {entries : List (String × Value × Value)} {fields : List (String × Value)}
      (each : ∀ entry ∈ entries, Reordered entry.2.1 entry.2.2)
      (order : (entries.map fun entry => (entry.1, entry.2.2)).Perm fields) :
      Reordered (.obj (entries.map fun entry => (entry.1, entry.2.1))) (.obj fields)

section Sorting

variable {key : String} {value : Value} {fields : List (String × Value)}

theorem insertField_perm (absent : ∀ field ∈ fields, field.1 ≠ key) :
    (insertField key value fields).Perm ((key, value) :: fields) := by
  induction fields with
  | nil => exact .refl _
  | cons field rest ih =>
    obtain ⟨name, old⟩ := field
    have other : ¬key = name := Ne.symm (absent (name, old) List.mem_cons_self)
    have tail := ih fun field member => absent field (List.mem_cons_of_mem _ member)
    by_cases before : key < name
    · simp [insertField, before]
    · simp only [insertField, before, if_false, beq_iff_eq, other]
      exact (tail.cons _).trans (.swap _ _ _)

theorem mem_of_mem_insertField {field : String × Value}
    (member : field ∈ insertField key value fields) : field = (key, value) ∨ field ∈ fields := by
  induction fields with
  | nil => exact .inl (List.mem_singleton.mp member)
  | cons first rest ih =>
    simp only [insertField] at member
    split at member
    · exact List.mem_cons.mp member
    · split at member
      · exact (List.mem_cons.mp member).imp_right (List.mem_cons_of_mem first)
      · rcases List.mem_cons.mp member with rfl | later
        · exact .inr List.mem_cons_self
        · exact (ih later).imp_right (List.mem_cons_of_mem first)

theorem insertField_sorted (sorted : fields.Pairwise fun a b => a.1 < b.1) :
    (insertField key value fields).Pairwise fun a b => a.1 < b.1 := by
  induction fields with
  | nil => exact List.pairwise_singleton _ _
  | cons field rest ih =>
    obtain ⟨name, old⟩ := field
    obtain ⟨least, sortedRest⟩ := List.pairwise_cons.mp sorted
    by_cases before : key < name
    · simp only [insertField, before, if_true]
      apply List.pairwise_cons.mpr
      refine ⟨?_, sorted⟩
      intro field member
      rcases List.mem_cons.mp member with rfl | later
      · exact before
      · exact String.lt_trans before (least field later)
    · by_cases same : key = name
      · subst same
        simp only [insertField, before, if_false, BEq.rfl, if_true]
        exact List.pairwise_cons.mpr ⟨least, sortedRest⟩
      · simp only [insertField, before, if_false, beq_iff_eq, same]
        apply List.pairwise_cons.mpr
        refine ⟨?_, ih sortedRest⟩
        intro field member
        rcases mem_of_mem_insertField member with rfl | later
        · exact Std.lt_of_le_of_ne (String.not_lt.mp before) (Ne.symm same)
        · exact least field later

/-- Fields of different keys are put among sorted ones one after the other. -/
theorem foldl_insertField (fields sorted : List (String × Value))
    (distinct : ((sorted ++ fields).map Prod.fst).Nodup)
    (start : sorted.Pairwise fun a b => a.1 < b.1) :
    (fields.foldl (fun sorted field => insertField field.1 field.2 sorted) sorted).Perm
        (sorted ++ fields) ∧
      (fields.foldl (fun sorted field => insertField field.1 field.2 sorted) sorted).Pairwise
        fun a b => a.1 < b.1 := by
  induction fields generalizing sorted with
  | nil => exact ⟨by simp, start⟩
  | cons field rest ih =>
    have absent : ∀ other ∈ sorted, other.1 ≠ field.1 := by
      intro other member same
      rw [List.map_append] at distinct
      exact (List.nodup_append.mp distinct).2.2 other.1 (List.mem_map_of_mem member) field.1
        (by simp) same
    have moved : (insertField field.1 field.2 sorted ++ rest).Perm (sorted ++ field :: rest) :=
      ((insertField_perm absent).append_right rest).trans List.perm_middle.symm
    have distinctRest : ((insertField field.1 field.2 sorted ++ rest).map Prod.fst).Nodup :=
      (moved.map Prod.fst).nodup_iff.mpr distinct
    obtain ⟨perm, result⟩ := ih _ distinctRest (insertField_sorted start)
    exact ⟨perm.trans moved, result⟩

/-- Sorting brings any order of sorted fields back. -/
theorem sortFields_of_perm {sorted : List (String × Value)} (perm : fields.Perm sorted)
    (increasing : sorted.Pairwise fun a b => a.1 < b.1) : sortFields fields = sorted := by
  have distinct : (fields.map Prod.fst).Nodup := by
    apply (perm.map Prod.fst).nodup_iff.mpr
    apply List.pairwise_map.mpr
    refine increasing.imp ?_
    intro a b less same
    rw [same] at less
    exact String.lt_irrefl _ less
  obtain ⟨same, result⟩ := foldl_insertField fields [] (by simpa using distinct) .nil
  apply List.Perm.eq_of_pairwise ?_ result increasing (same.trans perm)
  intro a b _ _ less greater
  exact absurd greater (String.lt_asymm less)

end Sorting

theorem canonicalItems_eq_map (items : List Value) :
    canonicalItems items = items.map canonical := by
  induction items with
  | nil => rfl
  | cons item rest ih => rw [canonicalItems, ih, List.map_cons]

theorem canonicalFields_eq_map (fields : List (String × Value)) :
    canonicalFields fields = fields.map fun field => (field.1, field.2.canonical) := by
  induction fields with
  | nil => rfl
  | cons field rest ih => rw [canonicalFields, ih, List.map_cons]

variable {v w : Value}

theorem Ordered.canonical_eq (ordered : v.Ordered) : v.canonical = v := by
  induction ordered with
  | null | bool | num | str => rfl
  | @arr items each ih =>
    rw [canonical, canonicalItems_eq_map, List.map_congr_left ih, List.map_id']
  | @obj fields sorted each ih =>
    have same : canonicalFields fields = fields := by
      rw [canonicalFields_eq_map]
      refine Eq.trans (List.map_congr_left ?_) (List.map_id _)
      intro field member
      rw [ih field member]
      rfl
    rw [canonical, same, sortFields_of_perm (.refl _) sorted]

/-- Whatever the order in which a value is written, its canonical form is the ordered one. -/
theorem Reordered.canonical_eq (reordered : v.Reordered w) (ordered : v.Ordered) :
    w.canonical = v := by
  induction reordered with
  | same => exact ordered.canonical_eq
  | @arr pairs each ih =>
    cases ordered with
    | arr eachOrdered =>
      rw [canonical, canonicalItems_eq_map, List.map_map]
      congr 1
      apply List.map_congr_left
      intro pair member
      exact ih pair member (eachOrdered _ (List.mem_map_of_mem member))
  | @obj entries fields each order ih =>
    cases ordered with
    | obj sorted eachOrdered =>
      have values : (entries.map fun entry => (entry.1, entry.2.2)).map
          (fun field => (field.1, canonical field.2)) =
            entries.map fun entry => (entry.1, entry.2.1) := by
        rw [List.map_map]
        apply List.map_congr_left
        intro entry member
        have part := ih entry member
          (eachOrdered (entry.1, entry.2.1) (List.mem_map.mpr ⟨entry, member, rfl⟩))
        exact congrArg (Prod.mk entry.1) part
      have perm : (canonicalFields fields).Perm
          (entries.map fun entry => (entry.1, entry.2.1)) := by
        rw [canonicalFields_eq_map, ← values]
        exact order.symm.map _
      rw [canonical, sortFields_of_perm perm sorted]

/-- The order of fields does not matter for the depth of nesting. -/
theorem Reordered.fits {depth : Nat} (reordered : v.Reordered w) (fits : v.Fits depth) :
    w.Fits depth := by
  induction reordered generalizing depth with
  | same => exact fits
  | @arr pairs each ih =>
    cases fits with
    | arr eachFits =>
      apply Fits.arr
      intro item member
      obtain ⟨pair, listed, rfl⟩ := List.mem_map.mp member
      exact ih pair listed (eachFits _ (List.mem_map_of_mem listed))
  | @obj entries fields each order ih =>
    cases fits with
    | obj eachFits =>
      apply Fits.obj
      intro field member
      obtain ⟨entry, listed, rfl⟩ := List.mem_map.mp (order.mem_iff.mpr member)
      exact ih entry listed
        (eachFits (entry.1, entry.2.1) (List.mem_map.mpr ⟨entry, listed, rfl⟩))

section Inversion

theorem Reordered.eq_str {s : String} (reordered : (Value.str s).Reordered w) : w = .str s := by
  cases reordered
  rfl

theorem Reordered.exists_items {items : List Value} (reordered : (Value.arr items).Reordered w) :
    ∃ pairs : List (Value × Value), items = pairs.map Prod.fst ∧ w = .arr (pairs.map Prod.snd) ∧
      ∀ pair ∈ pairs, pair.1.Reordered pair.2 := by
  cases reordered with
  | same =>
    refine ⟨items.map fun item => (item, item), ?_, ?_, ?_⟩
    · simp [Function.comp_def]
    · simp [Function.comp_def]
    · intro pair member
      obtain ⟨item, -, rfl⟩ := List.mem_map.mp member
      exact .same item
  | arr each => exact ⟨_, rfl, rfl, each⟩

theorem Reordered.exists_entries {fields : List (String × Value)}
    (reordered : (Value.obj fields).Reordered w) :
    ∃ (entries : List (String × Value × Value)) (written : List (String × Value)),
      entries.map (fun entry => (entry.1, entry.2.1)) = fields ∧ w = .obj written ∧
      (entries.map fun entry => (entry.1, entry.2.2)).Perm written ∧
      ∀ entry ∈ entries, entry.2.1.Reordered entry.2.2 := by
  cases reordered with
  | same =>
    refine ⟨fields.map fun field => (field.1, field.2, field.2), fields, ?_, rfl, ?_, ?_⟩
    · simp [Function.comp_def]
    · simp [Function.comp_def]
    · intro entry member
      obtain ⟨field, -, rfl⟩ := List.mem_map.mp member
      exact .same field.2
  | obj each order => exact ⟨_, _, rfl, rfl, order, each⟩

theorem Reordered.exists_one {key : String} {value : Value}
    (reordered : (Value.obj [(key, value)]).Reordered w) :
    ∃ written, value.Reordered written ∧ w = .obj [(key, written)] := by
  obtain ⟨entries, fields, whole, rfl, order, each⟩ := reordered.exists_entries
  obtain ⟨entry, rfl, same⟩ := List.map_eq_singleton_iff.mp whole
  cases same
  obtain rfl := List.singleton_perm.mp order
  exact ⟨entry.2.2, each entry List.mem_cons_self, rfl⟩

theorem Reordered.exists_two {first second : String} {x y : Value}
    (reordered : (Value.obj [(first, x), (second, y)]).Reordered w) :
    ∃ x' y', x.Reordered x' ∧ y.Reordered y' ∧
      (w = .obj [(first, x'), (second, y')] ∨ w = .obj [(second, y'), (first, x')]) := by
  obtain ⟨entries, fields, whole, rfl, order, each⟩ := reordered.exists_entries
  obtain ⟨entry, rest, rfl, same, more⟩ := List.map_eq_cons_iff.mp whole
  obtain ⟨other, rfl, last⟩ := List.map_eq_singleton_iff.mp more
  cases same
  cases last
  refine ⟨entry.2.2, other.2.2, each entry (by simp), each other (by simp), ?_⟩
  -- the first field stands before the second one or behind it
  obtain ⟨before, after, rfl⟩ :=
    List.append_of_mem (order.mem_iff.mp (List.mem_cons_self (a := (entry.1, entry.2.2))))
  have rest := (order.trans List.perm_middle).cons_inv
  rcases List.append_eq_singleton_iff.mp (List.singleton_perm.mp rest).symm with
    ⟨rfl, rfl⟩ | ⟨rfl, rfl⟩
  · exact .inl rfl
  · exact .inr rfl

end Inversion

theorem Reordered.swap {first second : String} {x x' y y' : Value} (left : x.Reordered x')
    (right : y.Reordered y') :
    (Value.obj [(first, x), (second, y)]).Reordered (.obj [(second, y'), (first, x')]) := by
  let entries := [(first, x, x'), (second, y, y')]
  have each : ∀ entry ∈ entries, entry.2.1.Reordered entry.2.2 := by
    simp [entries, left, right]
  exact .obj each (.swap _ _ _)

end GrammarEmbed.Json.Value
