import GrammarEmbed.Pipeline

namespace GrammarEmbed

namespace Table

variable {α : Type}

theorem lookup_cons_other {name head : String} (other : name ≠ head) (value : α)
    (rest : List (String × α)) : ((head, value) :: rest).lookup name = rest.lookup name := by
  have test : (name == head) = false := beq_eq_false_iff_ne.mpr other
  rw [List.lookup_cons, test]

private theorem lookup_insertEntry (key name : String) (value : α) (entries : List (String × α)) :
    (insertEntry key value entries).lookup name =
      if name = key then some value else entries.lookup name := by
  induction entries with
  | nil =>
    by_cases same : name = key
    · simp [insertEntry, same]
    · simp [insertEntry, lookup_cons_other same, same]
  | cons entry rest ih =>
    obtain ⟨head, old⟩ := entry
    by_cases replaced : head = key
    · subst replaced
      by_cases same : name = head
      · simp [insertEntry, same]
      · simp [insertEntry, lookup_cons_other same, same]
    · by_cases here : name = head
      · subst here
        simp [insertEntry, replaced]
      · simp [insertEntry, replaced, lookup_cons_other here, ih]

theorem get?_insert (table : Table α) (key name : String) (value : α) :
    (table.insert key value).get? name = if name = key then some value else table.get? name :=
  lookup_insertEntry key name value table.entries

private theorem insertEntry_of_absent {key : String} (value : α) {entries : List (String × α)}
    (absent : ∀ entry ∈ entries, entry.1 ≠ key) :
    insertEntry key value entries = entries ++ [(key, value)] := by
  induction entries with
  | nil => rfl
  | cons entry rest ih =>
    obtain ⟨other, later⟩ := List.forall_mem_cons.mp absent
    simp [insertEntry, other, ih later]

/-- Pairs of different new keys are appended. -/
theorem foldl_insert (table : Table α) (pairs : List (String × α))
    (distinct : ((table.entries ++ pairs).map Prod.fst).Nodup) :
    pairs.foldl (fun table pair => table.insert pair.1 pair.2) table =
      ⟨table.entries ++ pairs⟩ := by
  induction pairs generalizing table with
  | nil => simp
  | cons pair rest ih =>
    have absent : ∀ entry ∈ table.entries, entry.1 ≠ pair.1 := by
      intro entry member
      rw [List.map_append] at distinct
      exact (List.nodup_append.mp distinct).2.2 _ (List.mem_map_of_mem member) _ (by simp)
    have appended :
        table.entries ++ pair :: rest = (table.insert pair.1 pair.2).entries ++ rest := by
      simp [insert, insertEntry_of_absent pair.2 absent]
    rw [appended] at distinct ⊢
    exact ih _ distinct

theorem ofList_of_nodup {pairs : List (String × α)} (distinct : (pairs.map Prod.fst).Nodup) :
    ofList pairs = ⟨pairs⟩ :=
  foldl_insert {} pairs distinct

end Table

@[simp] theorem ParserClass.describe_grammar (value : Json.Value) :
    (ParserClass.grammar value).describe = .ok value :=
  rfl

namespace ParserExports

def grammar? (exports : ParserExports) (name : String) : Option Json.Value :=
  (exports.get? name).bind fun cls => cls.describe.toOption

/-- There are classes, no name stands for two of them, and each one can be constructed and gives a
grammar. -/
structure Responsive (exports : ParserExports) : Prop where
  nonempty : exports.isEmpty = false
  distinct : exports.keys.Nodup
  answers : ∀ entry ∈ exports.entries, ∃ grammar, entry.2.describe = .ok grammar

end ParserExports

def grammarClasses (pairs : List (String × Json.Value)) : List (String × ParserClass) :=
  pairs.map fun pair => (pair.1, .grammar pair.2)

/-- Extraction from the rest of an export map, with what is known already. -/
def extractInto (filename : String) (known : Grammars) (entries : List (String × ParserClass)) :
    Except Error Grammars :=
  entries.foldlM (fun grammars entry =>
    match entry.2.describe with
    | .ok grammar => .ok (grammars.insert entry.1 grammar)
    | .error message => .error (.extraction filename entry.1 message)) known

theorem extractGrammars_eq (filename : String) (exports : ParserExports) :
    extractGrammars filename exports = extractInto filename {} exports.entries :=
  rfl

section Steps

variable {filename : String} {known : Grammars} {entry : String × ParserClass}
  {rest : List (String × ParserClass)}

theorem extractInto_of_answer {grammar : Json.Value} (answer : entry.2.describe = .ok grammar) :
    extractInto filename known (entry :: rest) =
      extractInto filename (known.insert entry.1 grammar) rest := by
  simp [extractInto, answer, bind, Except.bind]

theorem extractInto_of_failure {message : String} (failed : entry.2.describe = .error message) :
    extractInto filename known (entry :: rest) =
      .error (.extraction filename entry.1 message) := by
  simp [extractInto, failed, bind, Except.bind]

/-- Classes that give grammars are gone through before the others. -/
theorem extractInto_grammars (pairs : List (String × Json.Value)) :
    extractInto filename known (grammarClasses pairs ++ rest) =
      extractInto filename
        (pairs.foldl (fun grammars pair => grammars.insert pair.1 pair.2) known) rest := by
  induction pairs generalizing known with
  | nil => rfl
  | cons pair others ih =>
    have step : extractInto filename known (grammarClasses (pair :: others) ++ rest) =
        extractInto filename (known.insert pair.1 pair.2) (grammarClasses others ++ rest) :=
      extractInto_of_answer (ParserClass.describe_grammar pair.2)
    rw [step, ih, List.foldl_cons]

end Steps

/-- If all classes answer, what is known already stays, unless the rest says otherwise. -/
private theorem extract_rest (filename : String) (entries : List (String × ParserClass))
    (known : Grammars) (distinct : (entries.map Prod.fst).Nodup)
    (answers : ∀ entry ∈ entries, ∃ grammar, entry.2.describe = .ok grammar) :
    ∃ grammars : Grammars, extractInto filename known entries = .ok grammars ∧
      ∀ name, grammars.get? name =
        ((entries.lookup name).bind fun cls => cls.describe.toOption).or (known.get? name) := by
  induction entries generalizing known with
  | nil => exact ⟨known, rfl, fun _ => rfl⟩
  | cons entry rest ih =>
    obtain ⟨head, cls⟩ := entry
    obtain ⟨grammar, answer⟩ := answers (head, cls) (by simp)
    obtain ⟨absent, distinctRest⟩ := List.nodup_cons.mp distinct
    obtain ⟨grammars, extracted, lookups⟩ := ih (known.insert head grammar) distinctRest
      fun entry member => answers entry (by simp [member])
    refine ⟨grammars, (extractInto_of_answer answer).trans extracted, ?_⟩
    intro name
    rw [lookups, Table.get?_insert]
    by_cases same : name = head
    · subst same
      have missing : rest.lookup name = none := by
        apply List.lookup_eq_none_iff.mpr
        intro entry member
        have other : name ≠ entry.1 :=
          fun same => absent (List.mem_map.mpr ⟨entry, member, same.symm⟩)
        simpa using other
      simp [missing, answer, Except.toOption]
    · simp [Table.lookup_cons_other same, same]

namespace Precompiler

/-- The grammars of a responsive export map are the answers of its classes. -/
theorem loadedGrammars_responsive (filename : String) {exports : ParserExports}
    (responsive : exports.Responsive) :
    ∃ grammars, loadedGrammars filename (.ok (some exports)) = .ok (some grammars) ∧
      ∀ name, grammars.get? name = exports.grammar? name := by
  obtain ⟨grammars, extracted, lookups⟩ :=
    extract_rest filename exports.entries {} responsive.distinct responsive.answers
  refine ⟨grammars, ?_, ?_⟩
  · have succeeds : extractGrammars filename exports = .ok grammars := extracted
    simp [loadedGrammars, responsive.nonempty, succeeds, bind, Except.bind, pure, Except.pure]
  · intro name
    have start : Table.get? ({} : Grammars) name = none := rfl
    rw [lookups, start, Option.or_none]
    rfl

end Precompiler

end GrammarEmbed
