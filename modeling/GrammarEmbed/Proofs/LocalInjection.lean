import GrammarEmbed.Proofs.ClassWalkers

namespace GrammarEmbed

open Ast

namespace Ast

def Item.withClass (cls : ClassDef) : Item → Item
  | .stmt (.decl (.class name _)) => .stmt (.decl (.class name cls))
  | .exportDecl span (.class name _) => .exportDecl span (.class name cls)
  | .exportDefaultClass span name _ => .exportDefaultClass span name cls
  | item => item

def Program.parsersBefore (program : Program) (aliases : Aliases) (index : Nat) : Nat :=
  ((program.items.take index).filterMap (Item.parserName? aliases)).length

namespace Item

theorem updateClass_eq_withClass {α : Type} (change : Ident → ClassDef → ClassDef × α) {item : Item}
    {found : NamedClass} (declared : item.class? = some found) :
    (item.updateClass change).1 = item.withClass (change found.name found.cls).1 := by
  rcases class_eq_some_iff.mp declared with rfl | ⟨span, rfl⟩ | ⟨span, rfl⟩ <;> rfl

theorem withClass_self {item : Item} {found : NamedClass} (declared : item.class? = some found) :
    item.withClass found.cls = item := by
  rcases class_eq_some_iff.mp declared with rfl | ⟨span, rfl⟩ | ⟨span, rfl⟩ <;> rfl

theorem parserName_eq_none {aliases : Aliases} {item : Item} {found : NamedClass}
    (declared : item.class? = some found) (unnamed : item.parserName? aliases = none) :
    found.cls.inherits aliases = false := by
  simpa [parserName?, declared] using unnamed

theorem exists_class_of_parserName {aliases : Aliases} {item : Item} {name : String}
    (named : item.parserName? aliases = some name) :
    ∃ found, item.class? = some found ∧ found.cls.inherits aliases = true ∧
      found.name.name = name := by
  cases declared : item.class? with
  | none => simp [parserName?, declared] at named
  | some found =>
    obtain ⟨parser, same⟩ : found.cls.inherits aliases = true ∧ found.name.name = name := by
      simpa [parserName?, declared] using named
    exact ⟨found, rfl, parser, same⟩

end Item

namespace Program

/-- The class of an item stands among the parser classes behind those of the items before it. -/
theorem parserClasses_parsersBefore {program : Program} {aliases : Aliases} {index : Nat}
    {item : Item} {found : NamedClass} (place : program.items[index]? = some item)
    (declared : item.class? = some found) (parser : found.cls.inherits aliases = true) :
    (program.parserClasses aliases)[program.parsersBefore aliases index]? = some found := by
  let part (items : List Item) : Program := { program with items }
  have before : program.parsersBefore aliases index =
      ((part (program.items.take index)).parserClasses aliases).length := by
    have names := (part (program.items.take index)).parserNames_eq aliases
    simpa [parsersBefore] using congrArg List.length names
  have split : program.items.take index ++ item :: program.items.drop (index + 1) =
      program.items := by
    obtain ⟨bound, rfl⟩ := List.getElem?_eq_some_iff.mp place
    simp
  have classesSplit : program.parserClasses aliases =
      (part (program.items.take index)).parserClasses aliases ++
        found :: (part (program.items.drop (index + 1))).parserClasses aliases := by
    calc
      program.parserClasses aliases =
          (part (program.items.take index ++ item :: program.items.drop (index + 1))).parserClasses
            aliases := by rw [split]
      _ = _ := by simp [parserClasses, classes, part, declared, parser]
  rw [before, classesSplit]
  simp

end Program

end Ast

namespace Injector

/-- What may become of the second argument of a call, and how it is reported. Where there is none
a literal is made for the property alone; a literal that is there has it at its end, or in exchange
for the first property that declares the name. -/
inductive SecondArgument (name : String) (property : Property) :
    Option Argument → Argument → InjectionOutcome → Prop where
  | made : SecondArgument name property none (.mk none (.object .none [property])) .injected
  | appended (span : Span) (properties : List Property) :
      SecondArgument name property (some (.mk none (.object span properties)))
        (.mk none (.object span (properties ++ [property]))) .injected
  | exchanged (span : Span) {before after : List Property} {old : Property}
      (first : ∀ other ∈ before, declares name other = false)
      (declared : declares name old = true) :
      SecondArgument name property (some (.mk none (.object span (before ++ old :: after))))
        (.mk none (.object span (before ++ property :: after))) .replaced

/-- Two lists of arguments differ in the second one, and in a placeholder before it where there was
no first one. -/
structure ArgumentsChanged (name : String) (property : Property) (args changed : List Argument)
    (outcome : InjectionOutcome) : Prop where
  length : changed.length = max 2 args.length
  first : ∃ argument, changed[0]? = some argument ∧
    (args[0]? = some argument ∨
      args[0]? = none ∧ ∃ value, argument = .mk none value ∧ value.IsUndefined)
  second : ∃ argument, changed[1]? = some argument ∧
    SecondArgument name property args[1]? argument outcome
  later : changed.drop 2 = args.drop 2

/-- What becomes of an item, given the entry of the report for its class. -/
inductive ItemAfter (injector : Injector) (grammars : Grammars) (item : Item) :
    ClassInjection → Item → Prop where
  | skipped (name : String) (reason : InjectionSkip) :
      ItemAfter injector grammars item ⟨name, .skipped reason⟩ item
  | changed {name : Ident} {grammar : Json.Value} {site : SuperCallSite}
      {args changed : List Argument} {property : Property} {outcome : InjectionOutcome}
      (declared : item.class? = some ⟨name, site.fill args⟩)
      (known : grammars.get? name.name = some grammar)
      (written : property.IsGrammar injector.property grammar.compact)
      (call : ArgumentsChanged injector.property property args changed outcome) :
      ItemAfter injector grammars item ⟨name.name, outcome⟩ (item.withClass (site.fill changed))

variable {injector : Injector} {value : Expr}

/-- Arguments stay as they are, or they change as the outcome says. -/
theorem Extended.changed {args extended : List Argument} {outcome : InjectionOutcome}
    (step : Extended injector value args extended outcome) :
    (∃ reason, outcome = .skipped reason ∧ extended = args) ∨
      ArgumentsChanged injector.property (.made injector.property value) args extended outcome := by
  cases step with
  | none =>
    have placeholder := Expr.isUndefined_made
    exact .inr ⟨rfl, ⟨_, rfl, .inr ⟨rfl, _, rfl, placeholder⟩⟩, ⟨_, rfl, .made⟩, rfl⟩
  | one first => exact .inr ⟨rfl, ⟨_, rfl, .inl rfl⟩, ⟨_, rfl, .made⟩, rfl⟩
  | blocked => exact .inl ⟨_, rfl, rfl⟩
  | literal first span rest placement =>
    have length (properties : List Property) :
        (Argument.mk .none first :: .mk .none (.object span properties) :: rest).length =
          max 2 (rest.length + 2) := by
      simp only [List.length_cons]
      omega
    cases placement with
    | kept policy present => exact .inl ⟨_, rfl, rfl⟩
    | appended room =>
      exact .inr ⟨length _, ⟨_, rfl, .inl rfl⟩, ⟨_, rfl, .appended span _⟩, rfl⟩
    | exchanged policy earlier declared =>
      exact .inr ⟨length _, ⟨_, rfl, .inl rfl⟩, ⟨_, rfl, .exchanged span earlier declared⟩, rfl⟩

variable {grammars : Grammars} {item : Item} {found : NamedClass}

/-- What becomes of the item of a parser class. -/
theorem itemAfter_treat (declared : item.class? = some found) :
    ItemAfter injector grammars item ⟨found.name.name, (injector.treat grammars found).2⟩
      (item.withClass (injector.treat grammars found).1) := by
  -- a class that is skipped is put back into its item
  have unchanged (reason : InjectionSkip)
      (skipped : injector.treat grammars found = (found.cls, .skipped reason)) :
      ItemAfter injector grammars item ⟨found.name.name, (injector.treat grammars found).2⟩
        (item.withClass (injector.treat grammars found).1) := by
    rw [skipped, Item.withClass_self declared]
    exact .skipped found.name.name reason
  cases known : grammars.get? found.name.name with
  | none =>
    apply unchanged .noGrammar
    simp only [treat, known]
  | some grammar =>
    have treated : injector.treat grammars found = injector.addToClass grammar found.cls := by
      simp only [treat, known]
    cases called : found.cls.superArguments? with
    | none =>
      obtain ⟨reason, skipped⟩ := injector.addToClass_of_none grammar called
      exact unchanged reason (treated.trans skipped)
    | some args =>
      obtain ⟨site, filled⟩ := SuperCallSite.exists_fill called
      have step := addToArguments_extended injector (.madeJsonParse grammar.compact) args
      rw [filled, addToClass_fill] at treated
      rcases step.changed with ⟨reason, skipped, same⟩ | call
      · rw [skipped, same, ← filled] at treated
        exact unchanged reason treated
      · rw [treated]
        have written := Property.isGrammar_made injector.property grammar.compact
        exact .changed (by rw [declared, ← filled]) known written call

variable (injector grammars) (aliases : Aliases) (program : Program)

theorem length_report :
    (injector.inject aliases grammars program).2.length =
      program.parsersBefore aliases program.items.length := by
  rw [inject_report, Program.parsersBefore, List.take_length, program.parserNames_eq]
  simp only [List.length_map]

theorem updateClass_visit_of_none (unnamed : item.parserName? aliases = none) :
    (item.updateClass (injector.visit aliases grammars)).1 = item := by
  apply Item.updateClass_self
  intro found declared
  have other : found.cls.inherits aliases = false := Item.parserName_eq_none declared unnamed
  simp [visit_eq, other]

/-- Injection is local. The program keeps its items in their places. An item without a parser class
stays as it is; an item with one has its entry in the report, behind those of the items before it,
and stays as it is unless that entry says otherwise. Then only the arguments of the first
`super(…)` statement of its first constructor with a body are others, and of these only the
configuration. -/
theorem injection_is_local (injector : Injector) (grammars : Grammars) (aliases : Aliases)
    (program : Program) :
    let done := injector.inject aliases grammars program
    done.1 = { program with items := done.1.items } ∧
    done.1.items.length = program.items.length ∧
    done.2.length = program.parsersBefore aliases program.items.length ∧
    ∀ (index : Nat) (item : Item), program.items[index]? = some item →
      (item.parserName? aliases = none → done.1.items[index]? = some item) ∧
      ∀ name, item.parserName? aliases = some name → ∃ entry after,
        done.2[program.parsersBefore aliases index]? = some entry ∧ entry.className = name ∧
        done.1.items[index]? = some after ∧ ItemAfter injector grammars item entry after := by
  intro done
  have items : done.1.items = program.items.map fun item =>
      (item.updateClass (injector.visit aliases grammars)).1 :=
    injector.items_inject aliases grammars program
  refine ⟨rfl, ?_, length_report injector grammars aliases program, ?_⟩
  · rw [items, List.length_map]
  · intro index item place
    have moved : done.1.items[index]? =
        some (item.updateClass (injector.visit aliases grammars)).1 := by
      rw [items, List.getElem?_map, place, Option.map_some]
    constructor
    · intro unnamed
      rw [moved, updateClass_visit_of_none injector grammars aliases unnamed]
    · intro name named
      obtain ⟨found, declared, parser, same⟩ := Item.exists_class_of_parserName named
      have listed := Program.parserClasses_parsersBefore place declared parser
      have entry : done.2[program.parsersBefore aliases index]? =
          some ⟨found.name.name, (injector.treat grammars found).2⟩ :=
        injector.entry_inject grammars listed
      have updated : (item.updateClass (injector.visit aliases grammars)).1 =
          item.withClass (injector.treat grammars found).1 := by
        rw [Item.updateClass_eq_withClass _ declared, visit_eq, if_pos parser]
      refine ⟨_, _, entry, same, moved, ?_⟩
      rw [updated]
      exact itemAfter_treat declared

/-- Of an import and three parsers, the import stays as it is, and the second parser is the second
entry of the report, with its property exchanged. -/
theorem injection_is_local_threeParsers :
    let injector : Injector := ⟨"serializedGrammar", .replace⟩
    let grammars : Grammars := ⟨[("Q", .null)]⟩
    let done := injector.inject ⟨["Parser"]⟩ grammars threeParsers
    done.1.items[0]? = threeParsers.items[0]? ∧
    ∃ item after, threeParsers.items[2]? = some item ∧ item.parserName? ⟨["Parser"]⟩ = some "Q" ∧
      threeParsers.parsersBefore ⟨["Parser"]⟩ 2 = 1 ∧ done.2[1]? = some ⟨"Q", .replaced⟩ ∧
      done.1.items[2]? = some after ∧ ItemAfter injector grammars item ⟨"Q", .replaced⟩ after := by
  intro injector grammars done
  obtain ⟨-, -, -, each⟩ := injection_is_local injector grammars ⟨["Parser"]⟩ threeParsers
  have imported := (each 0 _ rfl).1 rfl
  have reported : done.2[1]? = some ⟨"Q", .replaced⟩ := rfl
  obtain ⟨entry, after, listed, -, place, step⟩ := (each 2 _ rfl).2 "Q" rfl
  obtain rfl : ⟨"Q", .replaced⟩ = entry := Option.some.inj (reported.symm.trans listed)
  exact ⟨imported, _, after, rfl, rfl, rfl, reported, place, step⟩

end Injector

end GrammarEmbed
