import GrammarEmbed.Proofs.ClassUpdate
import GrammarEmbed.Proofs.ConfigLiteral

namespace GrammarEmbed

open Ast

theorem Ast.ClassDef.inherits_members (aliases : Aliases) (span : Span) (superclass : Option Expr)
    (members others : List ClassMember) :
    (ClassDef.mk span superclass members).inherits aliases =
      (ClassDef.mk span superclass others).inherits aliases := by
  unfold inherits
  split <;> simp_all

def ClassInjection.again (injection : ClassInjection) : ClassInjection :=
  { injection with outcome := injection.outcome.again }

theorem ClassInjection.changed_iff (injection : ClassInjection) :
    injection.changed = true ↔ ∀ reason, injection.outcome ≠ .skipped reason := by
  obtain ⟨name, outcome⟩ := injection
  cases outcome <;> simp [changed]

namespace Injector

variable (injector : Injector) (aliases : Aliases) (grammars : Grammars)

theorem inherits_addToClass (grammar : Json.Value) (cls : ClassDef) :
    (injector.addToClass grammar cls).1.inherits aliases = cls.inherits aliases := by
  obtain ⟨span, superclass, members⟩ := cls
  exact ClassDef.inherits_members aliases span superclass _ _

/-- What becomes of a parser class, and what is reported for it. -/
def treat (found : NamedClass) : ClassDef × InjectionOutcome :=
  match grammars.get? found.name.name with
  | some grammar => injector.addToClass grammar found.cls
  | none => (found.cls, .skipped .noGrammar)

variable {grammars} in
theorem treat_of_none {found : NamedClass} (absent : grammars.get? found.name.name = none) :
    injector.treat grammars found = (found.cls, .skipped .noGrammar) := by
  simp only [treat, absent]

theorem inherits_treat (found : NamedClass) :
    (injector.treat grammars found).1.inherits aliases = found.cls.inherits aliases := by
  unfold treat
  split
  · exact injector.inherits_addToClass aliases _ found.cls
  · rfl

theorem treat_of_skipped {found : NamedClass} {reason : InjectionSkip}
    (skipped : (injector.treat grammars found).2 = .skipped reason) :
    (injector.treat grammars found).1 = found.cls := by
  cases known : grammars.get? found.name.name with
  | none => simp only [treat, known]
  | some grammar =>
    simp only [treat, known] at skipped ⊢
    rcases injector.addToClass_cases grammar found.cls with ⟨_, same⟩ | ⟨changed, _⟩
    · rw [same]
    · exact absurd skipped (changed reason)

theorem visit_eq (name : Ident) (cls : ClassDef) :
    injector.visit aliases grammars name cls =
      if cls.inherits aliases then
        ((injector.treat grammars ⟨name, cls⟩).1,
          some ⟨name.name, (injector.treat grammars ⟨name, cls⟩).2⟩)
      else (cls, none) := by
  unfold visit treat
  split
  · cases grammars.get? name.name <;> rfl
  · rfl

theorem inherits_visit (name : Ident) (cls : ClassDef) :
    (injector.visit aliases grammars name cls).1.inherits aliases = cls.inherits aliases := by
  rw [visit_eq]
  split
  · exact injector.inherits_treat aliases grammars ⟨name, cls⟩
  · rfl

/-- There is one entry for every parser class, in source order. -/
theorem inject_report (program : Program) :
    (injector.inject aliases grammars program).2 =
      (program.parserClasses aliases).map fun found =>
        ⟨found.name.name, (injector.treat grammars found).2⟩ := by
  simp only [inject, Program.results_updateClasses, Program.parserClasses, visit_eq]
  induction program.classes with
  | nil => rfl
  | cons found rest ih =>
    by_cases parser : found.cls.inherits aliases <;> simp_all

theorem parserClasses_inject (program : Program) :
    (injector.inject aliases grammars program).1.parserClasses aliases =
      (program.parserClasses aliases).map fun found =>
        ⟨found.name, (injector.treat grammars found).1⟩ := by
  simp only [inject]
  rw [Program.parserClasses_updateClasses program (injector.inherits_visit aliases grammars)]
  apply List.map_congr_left
  intro found member
  have parser : found.cls.inherits aliases = true := (List.mem_filter.mp member).2
  simp [NamedClass.update, visit_eq, parser]

theorem items_inject (program : Program) :
    (injector.inject aliases grammars program).1.items =
      program.items.map fun item => (item.updateClass (injector.visit aliases grammars)).1 :=
  List.map_map

section Places

variable {aliases} {program : Program} {index : Nat} {found : NamedClass}
  (place : (program.parserClasses aliases)[index]? = some found)

include place

theorem entry_inject :
    (injector.inject aliases grammars program).2[index]? =
      some ⟨found.name.name, (injector.treat grammars found).2⟩ := by
  rw [inject_report, List.getElem?_map, place, Option.map_some]

theorem class_inject :
    ((injector.inject aliases grammars program).1.parserClasses aliases)[index]? =
      some ⟨found.name, (injector.treat grammars found).1⟩ := by
  rw [parserClasses_inject, List.getElem?_map, place, Option.map_some]

end Places

variable {injector aliases grammars} in
/-- A class that is reported as changed has taken one step with its own grammar. -/
theorem inject_changed {program : Program} {index : Nat} {entry : ClassInjection}
    (reported : (injector.inject aliases grammars program).2[index]? = some entry)
    (changed : entry.changed = true) :
    ∃ (before after : NamedClass) (grammar : Json.Value) (placed : List Property),
      (program.parserClasses aliases)[index]? = some before ∧
      ((injector.inject aliases grammars program).1.parserClasses aliases)[index]? = some after ∧
      after.name = before.name ∧ before.name.name = entry.className ∧
      grammars.get? entry.className = some grammar ∧ after.cls.configuration? = some placed ∧
      Placed injector (.madeJsonParse grammar.compact) (before.cls.configuration?.getD []) placed
        entry.outcome := by
  rw [inject_report, List.getElem?_map, Option.map_eq_some_iff] at reported
  obtain ⟨found, place, rfl⟩ := reported
  have moved := injector.class_inject grammars place
  cases known : grammars.get? found.name.name with
  | none => simp [treat, known, ClassInjection.changed] at changed
  | some grammar =>
    have treated : injector.treat grammars found = injector.addToClass grammar found.cls := by
      simp only [treat, known]
    rw [treated] at changed moved ⊢
    rcases injector.addToClass_cases grammar found.cls with
      ⟨reason, same⟩ | ⟨_, placed, configured, step⟩
    · simp [same, ClassInjection.changed] at changed
    · exact ⟨found, _, grammar, placed, place, moved, rfl, rfl, rfl, configured, step⟩

theorem inject_of_unchanged {program : Program}
    (unchanged : ∀ entry ∈ (injector.inject aliases grammars program).2, entry.changed = false) :
    (injector.inject aliases grammars program).1 = program := by
  rw [inject_report] at unchanged
  refine program.updateClasses_self _ fun found member => ?_
  rw [visit_eq]
  split
  · rename_i parser
    have entry := unchanged _ (List.mem_map.mpr
      ⟨found, List.mem_filter.mpr ⟨member, parser⟩, rfl⟩)
    cases outcome : (injector.treat grammars found).2 with
    | skipped reason => exact injector.treat_of_skipped grammars outcome
    | injected | replaced => simp [ClassInjection.changed, outcome] at entry
  · rfl

theorem treat_again (policy : injector.policy = .replace) (name : Ident) (cls : ClassDef) :
    injector.treat grammars ⟨name, (injector.treat grammars ⟨name, cls⟩).1⟩ =
      ((injector.treat grammars ⟨name, cls⟩).1, (injector.treat grammars ⟨name, cls⟩).2.again) := by
  unfold treat
  cases grammars.get? name.name with
  | none => rfl
  | some grammar => exact injector.addToClass_again grammar cls policy

theorem visit_again (policy : injector.policy = .replace) (name : Ident) (cls : ClassDef) :
    injector.visit aliases grammars name (injector.visit aliases grammars name cls).1 =
      ((injector.visit aliases grammars name cls).1,
        (injector.visit aliases grammars name cls).2.map ClassInjection.again) := by
  rw [visit_eq, inherits_visit, visit_eq]
  split
  · simp only [treat_again injector grammars policy]
    rfl
  · rfl

/-- With `replace`, a second run over a program leaves it as the first one has left it. -/
theorem inject_again (policy : injector.policy = .replace) (program : Program) :
    injector.inject aliases grammars (injector.inject aliases grammars program).1 =
      ((injector.inject aliases grammars program).1,
        (injector.inject aliases grammars program).2.map ClassInjection.again) := by
  have repeated := program.updateClasses_updateClasses (injector.visit aliases grammars)
    (injector.visit_again aliases grammars policy)
  simp only [inject, repeated, List.filterMap_map, List.map_filterMap]
  rfl

theorem isClone_inject (program : Program) :
    (injector.inject aliases grammars program).1.isClone = program.isClone :=
  program.isClone_updateClasses _

/-- Injection does not disturb what a second run looks at. -/
theorem gate_inject (config : Config) (program : Program) :
    config.gate (injector.inject (config.base.aliases program) grammars program).1 =
      config.gate program :=
  program.gate_updateClasses config (injector.inherits_visit _ grammars)

end Injector

section Samples

/-- `constructor() { super(…); }` -/
def madeConstructor (args : List Argument) : ClassMember :=
  .constructor .none (.name (.made "constructor")) []
    (some (.mk .none [.expr .none (.superCall .none .none args)]))

/-- `extends Parser { … }` -/
def madeParserClass (members : List ClassMember) : ClassDef :=
  .mk .none (some (.madeIdent "Parser")) members

/-- `class name extends Parser { … }` -/
def madeParser (name : String) (members : List ClassMember) : Item :=
  .stmt (.decl (.class (.made name) (madeParserClass members)))

/-- A module with three parsers: one that calls its superclass without arguments, an exported one
whose configuration has a grammar, and the default export, which has no constructor. -/
def threeParsers : Program where
  span := .none
  kind := .module
  shebang := none
  items :=
    [.importDecl .none .evaluation [.named .none (.made "Parser") none] ⟨.none, "chevrotain", none⟩,
      madeParser "P" [madeConstructor []],
      .exportDecl .none (.class (.made "Q") (madeParserClass
        [madeConstructor [.mk none .madeUndefined,
          .mk none (.madeObject [.made "serializedGrammar" .madeUndefined])]])),
      .exportDefaultClass .none (some (.made "R")) (madeParserClass [])]

end Samples

end GrammarEmbed
