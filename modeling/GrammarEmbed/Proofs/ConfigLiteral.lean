import GrammarEmbed.Proofs.SuperCall

namespace GrammarEmbed.Ast

/-- The properties of the literal that is the second of the arguments. -/
def configuration? : List Argument → Option (List Property)
  | _ :: .mk none (.object _ properties) :: _ => some properties
  | _ => none

def ClassDef.configuration? (cls : ClassDef) : Option (List Property) :=
  cls.superArguments?.bind Ast.configuration?

def Expr.IsUndefined (value : Expr) : Prop :=
  value = .ident ⟨.none, "undefined"⟩

/-- `JSON.parse("…")`, with one string as its only argument. -/
def Expr.IsJsonParse (json : String) (value : Expr) : Prop :=
  value = .call .none (.member .none (.ident ⟨.none, "JSON"⟩) (.name ⟨.none, "parse"⟩))
    [.mk none (.literal (.str ⟨.none, json, none⟩))]

/-- `name: JSON.parse("…")` -/
def Property.IsGrammar (name json : String) (property : Property) : Prop :=
  ∃ value, property = .keyValue (.name ⟨.none, name⟩) value ∧ value.IsJsonParse json

theorem Expr.isUndefined_made : Expr.madeUndefined.IsUndefined :=
  rfl

theorem Expr.isJsonParse_made (json : String) : (Expr.madeJsonParse json).IsJsonParse json :=
  rfl

theorem Property.isGrammar_made (name json : String) :
    (Property.made name (.madeJsonParse json)).IsGrammar name json :=
  ⟨_, rfl, Expr.isJsonParse_made json⟩

/-- A property that gives a value to a name: with the name as its key, with the name in quotes as
its key, or as a shorthand. -/
inductive Property.Declares (name : String) : Property → Prop where
  | named (span : Span) (value : Expr) : Declares name (.keyValue (.name ⟨span, name⟩) value)
  | quoted (span : Span) (raw : Option String) (value : Expr) :
      Declares name (.keyValue (.str ⟨span, name, raw⟩) value)
  | shorthand (span : Span) : Declares name (.shorthand ⟨span, name⟩)

/-- The literal holds the property with this JSON text. -/
def ClassDef.Carries (cls : ClassDef) (name json : String) : Prop :=
  ∃ properties property, cls.configuration? = some properties ∧ property ∈ properties ∧
    property.IsGrammar name json

theorem SuperCallSite.configuration_fill (site : SuperCallSite) (args : List Argument) :
    (site.fill args).configuration? = Ast.configuration? args := by
  simp [ClassDef.configuration?]

end GrammarEmbed.Ast

namespace GrammarEmbed

open Ast

/-- What a second run with the same grammar reports where a first one has reported `outcome`. -/
def InjectionOutcome.again : InjectionOutcome → InjectionOutcome
  | .injected => .replaced
  | outcome => outcome

namespace Injector

variable {injector : Injector} {value : Expr}

theorem declares_made (name : String) (value : Expr) :
    declares name (.made name value) = true := by
  simp [declares, Property.made, PropertyKey.spells, Ident.made]

theorem declares_iff {name : String} {property : Property} :
    declares name property = true ↔ property.Declares name := by
  constructor
  · intro declared
    cases property with
    | keyValue key value =>
      cases key with
      | name id =>
        obtain ⟨span, spelled⟩ := id
        obtain rfl : spelled = name := by simpa [declares, PropertyKey.spells] using declared
        exact .named span value
      | str lit =>
        obtain ⟨span, spelled, raw⟩ := lit
        obtain rfl : spelled = name := by simpa [declares, PropertyKey.spells] using declared
        exact .quoted span raw value
      | num | bigint | computed | privateName => cases declared
    | shorthand id =>
      obtain ⟨span, spelled⟩ := id
      obtain rfl : spelled = name := by simpa [declares] using declared
      exact .shorthand span
    | initialized | getter | setter | method | spread => cases declared
  · intro declared
    cases declared <;> simp [declares, PropertyKey.spells]

/-- Where the new property stands in a literal: at the end, in the place of the first one of its
name, or nowhere. -/
inductive Placed (injector : Injector) (value : Expr) :
    List Property → List Property → InjectionOutcome → Prop where
  | appended {properties : List Property}
      (room : injector.policy = .append ∨
        ∀ property ∈ properties, declares injector.property property = false) :
      Placed injector value properties (properties ++ [.made injector.property value]) .injected
  | exchanged {before after : List Property} {old : Property}
      (policy : injector.policy = .replace)
      (first : ∀ property ∈ before, declares injector.property property = false)
      (declared : declares injector.property old = true) :
      Placed injector value (before ++ old :: after)
        (before ++ .made injector.property value :: after) .replaced
  | kept {properties : List Property} (policy : injector.policy = .skip)
      (present : ∃ property ∈ properties, declares injector.property property = true) :
      Placed injector value properties properties (.skipped .alreadyPresent)

theorem Placed.made (injector : Injector) (value : Expr) :
    Placed injector value [] [.made injector.property value] .injected :=
  .appended (.inr (by simp))

theorem Placed.made_mem {properties placed : List Property} {outcome : InjectionOutcome}
    (step : Placed injector value properties placed outcome)
    (changed : ∀ reason, outcome ≠ .skipped reason) :
    Property.made injector.property value ∈ placed := by
  cases step with
  | appended | exchanged => simp
  | kept => exact absurd rfl (changed _)

private theorem split_of_findIdx {test : Property → Bool} {properties : List Property}
    {index : Nat} (found : properties.findIdx? test = some index) :
    ∃ before old after, properties = before ++ old :: after ∧ before.length = index ∧
      (∀ property ∈ before, test property = false) ∧ test old = true := by
  obtain ⟨bound, here, first⟩ := List.findIdx?_eq_some_iff_getElem.mp found
  refine ⟨properties.take index, properties[index], properties.drop (index + 1), ?_, ?_, ?_, here⟩
  · simp
  · simp [Nat.min_eq_left (Nat.le_of_lt bound)]
  · intro property member
    obtain ⟨place, short, same⟩ := List.mem_take_iff_getElem.mp member
    subst same
    simpa using first place (by omega)

variable (injector value) in
theorem addProperty_placed (properties : List Property) :
    Placed injector value properties (injector.addProperty value properties).1
      (injector.addProperty value properties).2 := by
  unfold addProperty
  cases found : properties.findIdx? (declares injector.property) with
  | none =>
    exact .appended (.inr (by simpa using List.findIdx?_eq_none_iff.mp found))
  | some index =>
    obtain ⟨before, old, after, rfl, rfl, first, declared⟩ := split_of_findIdx found
    cases policy : injector.policy with
    | replace => simpa using Placed.exchanged policy first declared
    | append => exact .appended (.inl policy)
    | skip => exact .kept policy ⟨old, by simp, declared⟩

private theorem addProperty_exchange {before after : List Property} {old : Property}
    (policy : injector.policy = .replace)
    (first : ∀ property ∈ before, declares injector.property property = false)
    (declared : declares injector.property old = true) :
    injector.addProperty value (before ++ old :: after) =
      (before ++ .made injector.property value :: after, .replaced) := by
  have found : (before ++ old :: after).findIdx? (declares injector.property) =
      some before.length := by
    have absent : before.findIdx? (declares injector.property) = none :=
      List.findIdx?_eq_none_iff.mpr first
    simp [List.findIdx?_append, absent, List.findIdx?_cons, declared]
  simp [addProperty, found, policy]

/-- With `replace`, a second run finds the property that the first one has written. -/
theorem Placed.again {properties placed : List Property} {outcome : InjectionOutcome}
    (policy : injector.policy = .replace)
    (step : Placed injector value properties placed outcome) :
    injector.addProperty value placed = (placed, outcome.again) := by
  cases step with
  | appended room =>
    have first : ∀ property ∈ properties, declares injector.property property = false := by
      rcases room with other | first
      · rw [policy] at other
        cases other
      · exact first
    exact addProperty_exchange policy first (declares_made _ _)
  | exchanged _ first _ => exact addProperty_exchange policy first (declares_made _ _)
  | kept other _ =>
    rw [policy] at other
    cases other

/-- What becomes of the arguments. A literal is made where there is no second argument, and only
a literal that is known to be the second argument is changed. -/
inductive Extended (injector : Injector) (value : Expr) :
    List Argument → List Argument → InjectionOutcome → Prop where
  | none : Extended injector value []
      [.mk none .madeUndefined, .mk none (.madeObject [.made injector.property value])] .injected
  | one (first : Expr) : Extended injector value [.mk none first]
      [.mk none first, .mk none (.madeObject [.made injector.property value])] .injected
  | literal (first : Expr) (span : Span) (rest : List Argument)
      {properties placed : List Property} {outcome : InjectionOutcome}
      (step : Placed injector value properties placed outcome) :
      Extended injector value (.mk none first :: .mk none (.object span properties) :: rest)
        (.mk none first :: .mk none (.object span placed) :: rest) outcome
  | blocked (args : List Argument) :
      Extended injector value args args (.skipped .unsupportedConfigShape)

variable (injector value) in
theorem addToArguments_extended (args : List Argument) :
    Extended injector value args (injector.addToArguments value args).1
      (injector.addToArguments value args).2 := by
  unfold addToArguments
  by_cases spread : (args.take 2).any isSpread = true
  · simpa only [spread, if_true] using Extended.blocked args
  · simp only [spread]
    -- no spread among the first two: their dots are absent
    rcases args with _ | ⟨⟨dots, first⟩, _ | ⟨⟨dots', second⟩, rest⟩⟩
    · exact .none
    · obtain rfl : dots = none := by simpa [isSpread] using spread
      exact .one first
    · obtain ⟨rfl, rfl⟩ : dots = none ∧ dots' = none := by simpa [isSpread] using spread
      cases second
      case object span properties =>
        exact .literal first span rest (addProperty_placed injector value properties)
      all_goals exact .blocked _

variable (value) in
theorem addToArguments_again (policy : injector.policy = .replace) (args : List Argument) :
    injector.addToArguments value (injector.addToArguments value args).1 =
      ((injector.addToArguments value args).1, (injector.addToArguments value args).2.again) := by
  have step := addToArguments_extended injector value args
  generalize result : injector.addToArguments value args = after at step ⊢
  obtain ⟨extended, outcome⟩ := after
  cases step with
  | none | one =>
    have written : injector.addProperty value [.made injector.property value] =
        ([.made injector.property value], .replaced) := (Placed.made injector value).again policy
    simp [addToArguments, isSpread, Expr.madeObject, written, InjectionOutcome.again]
  | literal first span rest step => simp [addToArguments, isSpread, step.again policy]
  | blocked => exact result

/-- Either nothing happens, or the literal takes one step from what it was. A call without a
literal counts as one with an empty literal. -/
theorem Extended.cases_literal {args extended : List Argument} {outcome : InjectionOutcome}
    (step : Extended injector value args extended outcome) :
    (∃ reason, outcome = .skipped reason ∧ extended = args) ∨
      (∀ reason, outcome ≠ .skipped reason) ∧ ∃ placed, Ast.configuration? extended = some placed ∧
        Placed injector value ((Ast.configuration? args).getD []) placed outcome := by
  cases step with
  | none | one => exact .inr ⟨nofun, _, rfl, .made injector value⟩
  | literal first span rest step =>
    cases step with
    | kept policy present => exact .inl ⟨_, rfl, rfl⟩
    | appended room => exact .inr ⟨nofun, _, rfl, .appended room⟩
    | exchanged policy first declared =>
      exact .inr ⟨nofun, _, rfl, .exchanged policy first declared⟩
  | blocked => exact .inl ⟨_, rfl, rfl⟩

variable (injector) (grammar : Json.Value) (cls : ClassDef)

/-- A class stays as it is, or the literal that it hands to its superclass takes one step. -/
theorem addToClass_cases :
    (∃ reason, injector.addToClass grammar cls = (cls, .skipped reason)) ∨
      (∀ reason, (injector.addToClass grammar cls).2 ≠ .skipped reason) ∧
      ∃ placed, (injector.addToClass grammar cls).1.configuration? = some placed ∧
        Placed injector (.madeJsonParse grammar.compact) (cls.configuration?.getD []) placed
          (injector.addToClass grammar cls).2 := by
  cases called : cls.superArguments? with
  | none => exact .inl (addToClass_of_none injector grammar called)
  | some args =>
    obtain ⟨site, rfl⟩ := SuperCallSite.exists_fill called
    rw [addToClass_fill, SuperCallSite.configuration_fill, SuperCallSite.configuration_fill]
    rcases (addToArguments_extended injector (.madeJsonParse grammar.compact) args).cases_literal
      with ⟨reason, skipped, same⟩ | step
    · exact .inl ⟨reason, by rw [skipped, same]⟩
    · exact .inr step

/-- With `replace`, a second run over a class changes nothing and reports the same, but for a
property that is now there. -/
theorem addToClass_again (policy : injector.policy = .replace) :
    injector.addToClass grammar (injector.addToClass grammar cls).1 =
      ((injector.addToClass grammar cls).1, (injector.addToClass grammar cls).2.again) := by
  cases called : cls.superArguments? with
  | none =>
    obtain ⟨reason, same⟩ := addToClass_of_none injector grammar called
    rw [same]
    exact same
  | some args =>
    obtain ⟨site, rfl⟩ := SuperCallSite.exists_fill called
    rw [addToClass_fill, addToClass_fill]
    rw [addToArguments_again _ policy]

end Injector

end GrammarEmbed
