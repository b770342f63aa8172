import Mathlib.Tactic.MkIffOfInductiveProp
import GrammarEmbed.Error
import GrammarEmbed.Proofs.RepeatedFields

namespace GrammarEmbed

def DuplicatePolicy.name : DuplicatePolicy → String
  | .replace => "replace"
  | .append => "append"
  | .skip => "skip"

namespace Config

open Json (Value ShapeFault bind_eq_ok_iff)
open Json.Value (lastField?)

/-- A field is what the value given for it spells, and the default if there is none. -/
def Takes {α : Type} (spells : Value → α → Prop) (default : α) (given : Option Value)
    (result : α) : Prop :=
  match given with
  | none => result = default
  | some value => spells value result

/-- A policy is spelled by its name, or by an object with the name as its only key and no value. -/
def SpellsPolicy (value : Value) (policy : DuplicatePolicy) : Prop :=
  value = .str policy.name ∨ value = .obj [(policy.name, .null)]

/-- Each field of a configuration is what is given for it, and that of `base` if nothing is. -/
@[mk_iff]
structure Described (base : Config) (given : String → Option Value) (config : Config) : Prop where
  debug : Takes (fun value b => value = .bool b) base.debug (given "debug") config.debug
  library : Takes (fun value s => value = .str s) base.library (given "library") config.library
  baseClass :
    Takes (fun value s => value = .str s) base.baseClass (given "baseClass") config.baseClass
  introspectionMethod : Takes (fun value s => value = .str s) base.introspectionMethod
    (given "introspectionMethod") config.introspectionMethod
  grammarProperty : Takes (fun value s => value = .str s) base.grammarProperty
    (given "grammarProperty") config.grammarProperty
  duplicatePolicy :
    Takes SpellsPolicy base.duplicatePolicy (given "duplicatePolicy") config.duplicatePolicy

section Checking

def names (config : Config) : List String :=
  [config.baseClass, config.introspectionMethod, config.grammarProperty]

/-- A loop over named values ends without a fault exactly if each of them may be a name. -/
theorem forIn_isPlainName (fields : List (String × String)) :
    (forIn fields PUnit.unit fun (field, value) (_ : PUnit) =>
        if !Text.isPlainName value then do
          throw (ConfigFault.notIdentifier field value)
          pure (ForInStep.yield PUnit.unit)
        else pure (ForInStep.yield PUnit.unit)) =
      (Except.ok PUnit.unit : Except ConfigFault PUnit) ↔
    ∀ field ∈ fields, Text.isPlainName field.2 = true := by
  induction fields with
  | nil => simp [pure, Except.pure]
  | cons field rest ih =>
    rw [List.forIn_cons, List.forall_mem_cons, ← ih]
    cases plain : Text.isPlainName field.2 with
    | false => simp [plain, bind, Except.bind, throw, throwThe, MonadExceptOf.throw]
    | true => simp [plain, bind, Except.bind, pure, Except.pure]

theorem validate_eq_ok_iff (config : Config) :
    config.validate = .ok () ↔
      config.library ≠ "" ∧ ∀ name ∈ config.names, Text.isPlainName name = true := by
  rw [validate, Ne, ← String.isEmpty_iff]
  cases config.library.isEmpty with
  | true => simp [bind, Except.bind, throw, throwThe, MonadExceptOf.throw]
  | false =>
    have checked := forIn_isPlainName [("baseClass", config.baseClass),
      ("introspectionMethod", config.introspectionMethod),
      ("grammarProperty", config.grammarProperty)]
    simpa [names] using checked

/-- The names that a configuration has by default pass the check. -/
theorem plain_names_default : ∀ name ∈ ({} : Config).names, Text.isPlainName name = true := by
  decide +kernel

end Checking

section Fields

variable {value : Value}

theorem readBool_eq_ok_iff {b : Bool} : readBool value = .ok b ↔ value = .bool b := by
  cases value <;> simp [readBool]

theorem readString_eq_ok_iff {s : String} : readString value = .ok s ↔ value = .str s := by
  cases value <;> simp [readString]

theorem policyOfName_eq_ok_iff {name : String} {policy : DuplicatePolicy} :
    policyOfName name = .ok policy ↔ name = policy.name := by
  unfold policyOfName
  split
  · cases policy <;> simp [DuplicatePolicy.name]
  · cases policy <;> simp [DuplicatePolicy.name]
  · cases policy <;> simp [DuplicatePolicy.name]
  · cases policy <;> simp_all [DuplicatePolicy.name]

theorem readPolicy_eq_ok_iff {policy : DuplicatePolicy} :
    readPolicy value = .ok policy ↔ SpellsPolicy value policy := by
  unfold readPolicy SpellsPolicy
  split
  · simp [policyOfName_eq_ok_iff]
  · next name inner =>
    rw [bind_eq_ok_iff]
    cases inner <;> simp [policyOfName_eq_ok_iff]
  · next fields many => simpa using many policy.name .null
  · next other noName noObject => simp_all

theorem takes_single {α : Type} (spells : Value → α → Prop) (default result : α)
    (key name : String) :
    Takes spells default ([(key, value)].lookup name) result ↔
      if name = key then spells value result else result = default := by
  by_cases same : name = key <;> simp [Takes, Json.Value.lookup_cons_eq_ite, same]

theorem setField_eq_ok_iff (config : Config) (key : String) (result : Config) :
    config.setField key value = .ok result ↔
      Described config ([(key, value)].lookup ·) result := by
  cases config
  cases result
  simp only [described_iff, takes_single]
  -- one case for each name of a field, and one for all other keys
  unfold setField
  split
  all_goals
    simp only [bind_eq_ok_iff, readBool_eq_ok_iff, readString_eq_ok_iff, readPolicy_eq_ok_iff,
      Except.ok.injEq, mk.injEq]
    grind

end Fields

section Order

variable {key : String} {value : Value} {rest : List (String × Value)}
  (fresh : rest.lookup key = none)

include fresh

/-- A field takes what the first of some keys gives, and then what the others give. -/
theorem takes_cons {α : Type} (spells : Value → α → Prop) (default result : α) (name : String) :
    Takes spells default (((key, value) :: rest).lookup name) result ↔
      ∃ between, Takes spells default ([(key, value)].lookup name) between ∧
        Takes spells between (rest.lookup name) result := by
  simp only [takes_single]
  rw [Json.Value.lookup_cons_eq_ite]
  by_cases same : name = key
  · subst same
    simp [Takes, fresh]
  · simp [same]

theorem described_cons {base result : Config} :
    Described base (((key, value) :: rest).lookup ·) result ↔
      ∃ between, Described base ([(key, value)].lookup ·) between ∧
        Described between (rest.lookup ·) result := by
  simp only [described_iff, takes_cons fresh]
  constructor
  -- the configuration between is put together from what each field is between
  · rintro ⟨⟨debug, d, d'⟩, ⟨library, l, l'⟩, ⟨baseClass, b, b'⟩, ⟨method, m, m'⟩,
      ⟨property, p, p'⟩, ⟨policy, q, q'⟩⟩
    exact ⟨⟨debug, library, baseClass, method, property, policy⟩, ⟨d, l, b, m, p, q⟩,
      d', l', b', m', p', q'⟩
  · rintro ⟨between, ⟨d, l, b, m, p, q⟩, d', l', b', m', p', q'⟩
    exact ⟨⟨_, d, d'⟩, ⟨_, l, l'⟩, ⟨_, b, b'⟩, ⟨_, m, m'⟩, ⟨_, p, p'⟩, ⟨_, q, q'⟩⟩

end Order

section Sorted

variable {fields others : List (String × Value)}

/-- Fields of different keys give a configuration exactly if each value that counts is of the type
of its field. -/
theorem setFields_eq_ok_iff (sorted : fields.Pairwise fun a b => a.1 < b.1)
    (base result : Config) :
    base.setFields fields = .ok result ↔ Described base (fields.lookup ·) result := by
  induction fields generalizing base with
  | nil =>
    cases base
    cases result
    simp [setFields, described_iff, Takes, pure, Except.pure, eq_comm]
  | cons field rest ih =>
    obtain ⟨key, value⟩ := field
    obtain ⟨least, sortedRest⟩ := List.pairwise_cons.mp sorted
    rw [described_cons (Json.Value.lookup_of_lt least)]
    simp only [← ih sortedRest, ← setField_eq_ok_iff]
    exact bind_eq_ok_iff

theorem setField_of_unknown {key : String} (unknown : key ∉ fieldNames) (config : Config)
    (value : Value) : config.setField key value = .ok config := by
  unfold setField
  split <;> simp_all [fieldNames]

/-- Other keys are passed over. -/
theorem setFields_filter (base : Config) (fields : List (String × Value)) :
    base.setFields (fields.filter fun field => fieldNames.contains field.1) =
      base.setFields fields := by
  induction fields generalizing base with
  | nil => rfl
  | cons field rest ih =>
    obtain ⟨key, value⟩ := field
    by_cases known : key ∈ fieldNames
    · rw [List.filter_cons_of_pos (by simpa using known)]
      simp only [setFields, List.foldlM_cons]
      congr 1
      exact funext ih
    · rw [List.filter_cons_of_neg (by simpa using known), ih]
      simp only [setFields, List.foldlM_cons, setField_of_unknown known]
      rfl

/-- Fields in order are read alike, also to the same fault, if they give the same under the names
that count. -/
theorem setFields_congr (sorted : fields.Pairwise fun a b => a.1 < b.1)
    (sortedOthers : others.Pairwise fun a b => a.1 < b.1)
    (same : ∀ key ∈ fieldNames, fields.lookup key = others.lookup key) (base : Config) :
    base.setFields fields = base.setFields others := by
  rw [← setFields_filter, ← setFields_filter base others]
  congr 1
  apply Json.Value.eq_of_lookup_eq (sorted.filter _) (sortedOthers.filter _)
  intro key
  simp only [Json.Value.lookup_filter]
  by_cases known : key ∈ fieldNames
  · simp [known, same key known]
  · simp [known]

theorem ofWrapped_eq (sorted : fields.Pairwise fun a b => a.1 < b.1) :
    ofWrapped fields = ((fields.lookup "options").map ofBare).getD (.ok {}) := by
  have run (start : Config) :
      fields.foldlM (fun config field =>
          if field.1 == "options" then ofBare field.2 else .ok config) start =
        ((fields.lookup "options").map ofBare).getD (.ok start) := by
    induction fields generalizing start with
    | nil => rfl
    | cons field rest ih =>
      obtain ⟨key, value⟩ := field
      obtain ⟨least, sortedRest⟩ := List.pairwise_cons.mp sorted
      rw [List.foldlM_cons, Json.Value.lookup_cons_eq_ite]
      simp only [ih sortedRest]
      by_cases wrapper : "options" = key
      · -- no later key is the same, so what is read here stays
        subst wrapper
        simp only [Json.Value.lookup_of_lt least, BEq.rfl, if_true]
        exact bind_pure (ofBare value)
      · simp only [wrapper, beq_false_of_ne (Ne.symm wrapper), if_false]
        rfl
  exact run {}

end Sorted

section Texts

variable {value : Value}

theorem ofValue_of_bare (plain : value.last? "options" = none) :
    ofValue value.canonical = ofBare value.canonical := by
  have absent : value.canonical.get? "options" = none := by
    rw [Json.Value.get?_canonical, plain, Option.map_none]
  simp [ofValue, absent]

theorem ofValue_of_wrapped {options : Value} (holds : value.last? "options" = some options) :
    ofValue value.canonical = ofBare options.canonical := by
  cases value with
  | obj fields =>
    have found : (Value.obj fields).canonical.get? "options" = some options.canonical := by
      rw [Json.Value.get?_canonical, holds, Option.map_some]
    have sorted := Json.Value.sortFields_sorted (Json.Value.canonicalFields fields)
    simp only [Json.Value.canonical] at found ⊢
    simp only [ofValue, found]
    simp only [Json.Value.get?] at found
    rw [ofWrapped_eq sorted, found]
    rfl
  | null | bool | num | str | arr => cases holds

variable {text other : String}

theorem ofJson_congr {otherValue : Value} (parsed : Json.parse text = .ok value)
    (parsedOther : Json.parse other = .ok otherValue)
    (same : ofValue value.canonical = ofValue otherValue.canonical) :
    ofJson text = ofJson other := by
  rw [ofJson, ofJson, parsed, parsedOther]
  simp only [same]

theorem ofJson_eq_ok_iff (parsed : Json.parse text = .ok value) (config : Config) :
    ofJson text = .ok config ↔
      ofValue value.canonical = .ok config ∧ config.validate = .ok () := by
  simp only [ofJson, parsed]
  cases ofValue value.canonical with
  | error fault => simp
  | ok found =>
    by_cases same : found = config
    · subst same
      cases valid : found.validate <;> simp [valid]
    · cases valid : found.validate <;> simp [valid, same]

variable {fields others : List (String × Value)} (parsed : Json.parse text = .ok (.obj fields))
  (plain : (Value.obj fields).last? "options" = none)

/-- The values that an object's configuration is read from. -/
theorem lookup_canonical (fields : List (String × Value)) (key : String) :
    (Json.Value.sortFields (Json.Value.canonicalFields fields)).lookup key =
      (lastField? key fields).map Value.canonical := by
  rw [Json.Value.lookup_sortFields, Json.Value.lastField?_canonicalFields]

include parsed plain

theorem ofJson_obj_eq_ok_iff (config : Config) :
    ofJson text = .ok config ↔
      Described {} (fun key => (lastField? key fields).map Value.canonical) config ∧
        config.validate = .ok () := by
  rw [ofJson_eq_ok_iff parsed, ofValue_of_bare plain, Json.Value.canonical, ofBare,
    setFields_eq_ok_iff (Json.Value.sortFields_sorted _)]
  simp only [lookup_canonical]

theorem ofJson_obj_congr (parsedOther : Json.parse other = .ok (.obj others))
    (plainOther : (Value.obj others).last? "options" = none)
    (same : ∀ key ∈ fieldNames, (lastField? key others).map Value.canonical =
      (lastField? key fields).map Value.canonical) :
    ofJson other = ofJson text := by
  apply ofJson_congr parsedOther parsed
  rw [ofValue_of_bare plain, ofValue_of_bare plainOther, Json.Value.canonical,
    Json.Value.canonical, ofBare, ofBare]
  apply setFields_congr (Json.Value.sortFields_sorted _) (Json.Value.sortFields_sorted _)
  simpa only [lookup_canonical] using same

end Texts

/-- A configuration is read from an object that holds it under `options` as it is read bare, to the
same fault if it is refused. Bare, an object gives the configuration whose fields are the last
values given under their names, or the defaults, if the values have the right types and pass the
check; and whatever gives the same under those names is read alike. -/
theorem wrapped_reads_as_bare {bare wrapped : String} {value object options : Value}
    (parsed : Json.parse bare = .ok value) (plain : value.last? "options" = none)
    (parsedWrapped : Json.parse wrapped = .ok object)
    (holds : object.last? "options" = some options)
    (same : options.canonical = value.canonical) :
    ofJson wrapped = ofJson bare ∧
    ∀ fields, value = .obj fields →
      (∀ config, ofJson bare = .ok config ↔
        Described {} (fun key => (lastField? key fields).map Value.canonical) config ∧
          config.validate = .ok ()) ∧
      ∀ text others, Json.parse text = .ok (.obj others) →
        (Value.obj others).last? "options" = none →
        (∀ key ∈ fieldNames, (lastField? key others).map Value.canonical =
          (lastField? key fields).map Value.canonical) →
        ofJson text = ofJson bare := by
  refine ⟨?_, ?_⟩
  · apply ofJson_congr parsedWrapped parsed
    rw [ofValue_of_wrapped holds, ofValue_of_bare plain, same]
  · rintro fields rfl
    refine ⟨ofJson_obj_eq_ok_iff parsed plain, ?_⟩
    intro text others parsedOther plainOther agree
    exact ofJson_obj_congr parsed plain parsedOther plainOther agree

/-- A configuration with a key given twice, one that names no field, and a policy in an object. -/
def repeatedKeys : Value :=
  .obj [("library", .bool true), ("version", .arr [.null]), ("debug", .bool true),
    ("library", .str "parsing"), ("duplicatePolicy", .obj [("skip", .null)])]

/-- An object that holds it under a key that is given twice itself. -/
def wrappedKeys : Value :=
  .obj [("options", .null), ("name", .str "plugin"), ("options", repeatedKeys)]

/-- The same configuration without idle keys, in another order. -/
def plainKeys : Value :=
  .obj [("duplicatePolicy", .obj [("skip", .null)]), ("library", .str "parsing"),
    ("debug", .bool true)]

theorem wrapped_reads_as_bare_repeatedKeys :
    Json.parse repeatedKeys.compact = .ok repeatedKeys ∧
      Json.parse wrappedKeys.compact = .ok wrappedKeys ∧
      ofJson wrappedKeys.compact = ofJson repeatedKeys.compact ∧
      ofJson plainKeys.compact = ofJson repeatedKeys.compact ∧
      ofJson repeatedKeys.compact =
        .ok { debug := true, library := "parsing", duplicatePolicy := .skip } := by
  have policy (depth : Nat) : (Value.obj [("skip", .null)]).Fits (depth + 1) :=
    .obj (List.forall_mem_cons.mpr ⟨.null, nofun⟩)
  have version (depth : Nat) : (Value.arr [.null]).Fits (depth + 1) :=
    .arr (List.forall_mem_cons.mpr ⟨.null, nofun⟩)
  have fits (depth : Nat) : repeatedKeys.Fits (depth + 2) := by
    apply Value.Fits.obj
    simp only [List.forall_mem_cons]
    exact ⟨.bool _, version _, .bool _, .str _, policy _, nofun⟩
  have fitsWrapped : wrappedKeys.Fits Json.maxDepth := by
    apply Value.Fits.obj
    simp only [List.forall_mem_cons]
    exact ⟨.null, .str _, fits _, nofun⟩
  have fitsPlain : plainKeys.Fits Json.maxDepth := by
    apply Value.Fits.obj
    simp only [List.forall_mem_cons]
    exact ⟨policy _, .str _, .bool _, nofun⟩
  have parsed := Json.parse_compact (fits _)
  have parsedWrapped := Json.parse_compact fitsWrapped
  obtain ⟨same, reads⟩ := wrapped_reads_as_bare parsed (by rfl) parsedWrapped (by rfl) rfl
  obtain ⟨described, alike⟩ := reads _ rfl
  refine ⟨parsed, parsedWrapped, same, ?_, ?_⟩
  · apply alike _ _ (Json.parse_compact fitsPlain) (by rfl)
    simp only [fieldNames, List.forall_mem_cons]
    exact ⟨rfl, rfl, rfl, rfl, rfl, rfl, nofun⟩
  · apply (described _).mpr
    refine ⟨⟨rfl, rfl, rfl, rfl, rfl, .inr rfl⟩, ?_⟩
    exact (validate_eq_ok_iff _).mpr ⟨by decide, plain_names_default⟩

end Config

end GrammarEmbed
