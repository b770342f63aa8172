import GrammarEmbed.Proofs.PolicyRuns

namespace GrammarEmbed

open Ast

namespace Injector

/-- What is to be reported for a parser class. -/
inductive Verdict (injector : Injector) (grammars : Grammars) (found : NamedClass) :
    InjectionOutcome → Prop where
  | noGrammar (unknown : grammars.get? found.name.name = none) :
      Verdict injector grammars found (.skipped .noGrammar)
  | noConstructor (known : (grammars.get? found.name.name).isSome = true)
      (bodiless : ∀ member ∈ found.cls.members, member.constructorBody? = none) :
      Verdict injector grammars found (.skipped .noConstructor)
  | noSuperCall {body : List Stmt} (known : (grammars.get? found.name.name).isSome = true)
      (constructed : found.cls.constructorBody? = some body)
      (callless : ∀ stmt ∈ body, stmt.superArguments? = none) :
      Verdict injector grammars found (.skipped .noSuperCall)
  | spread {args : List Argument} {arg : Argument}
      (known : (grammars.get? found.name.name).isSome = true)
      (called : found.cls.superArguments? = some args) (early : arg ∈ args.take 2)
      (dotted : isSpread arg = true) :
      Verdict injector grammars found (.skipped .unsupportedConfigShape)
  | noLiteral {args : List Argument} {dots : Option Span} {value : Expr}
      (known : (grammars.get? found.name.name).isSome = true)
      (called : found.cls.superArguments? = some args) (second : args[1]? = some (.mk dots value))
      (other : ∀ span properties, value ≠ .object span properties) :
      Verdict injector grammars found (.skipped .unsupportedConfigShape)
  | alreadyPresent {args : List Argument}
      (known : (grammars.get? found.name.name).isSome = true)
      (called : found.cls.superArguments? = some args) (accepts : AcceptsConfiguration args)
      (policy : injector.policy = .skip)
      (present : ∃ property ∈ (configuration? args).getD [], property.Declares injector.property) :
      Verdict injector grammars found (.skipped .alreadyPresent)
  | replaced {args : List Argument} (known : (grammars.get? found.name.name).isSome = true)
      (called : found.cls.superArguments? = some args) (accepts : AcceptsConfiguration args)
      (policy : injector.policy = .replace)
      (present : ∃ property ∈ (configuration? args).getD [], property.Declares injector.property) :
      Verdict injector grammars found .replaced
  | injected {args : List Argument} (known : (grammars.get? found.name.name).isSome = true)
      (called : found.cls.superArguments? = some args) (accepts : AcceptsConfiguration args)
      (room : injector.policy = .append ∨
        ∀ property ∈ (configuration? args).getD [], ¬property.Declares injector.property) :
      Verdict injector grammars found .injected

theorem not_accepts_iff {args : List Argument} :
    ¬AcceptsConfiguration args ↔
      (∃ arg ∈ args.take 2, isSpread arg = true) ∨
      ∃ dots value, args[1]? = some (.mk dots value) ∧
        ∀ span properties, value ≠ .object span properties := by
  rw [AcceptsConfiguration, Classical.not_and_iff_not_or_not]
  simp

theorem addToArguments_of_not_accepts (injector : Injector) (value : Expr) {args : List Argument}
    (refuses : ¬AcceptsConfiguration args) :
    (injector.addToArguments value args).2 = .skipped .unsupportedConfigShape := by
  have step := addToArguments_extended injector value args
  generalize injector.addToArguments value args = after at step ⊢
  obtain ⟨extended, outcome⟩ := after
  cases step with
  | none => exact absurd (by simp [AcceptsConfiguration]) refuses
  | one first => exact absurd (by simp [AcceptsConfiguration, isSpread]) refuses
  | literal first span rest placement =>
    exact absurd (by simp [AcceptsConfiguration, isSpread]) refuses
  | blocked => rfl

variable (injector : Injector) {grammars : Grammars} {found : NamedClass}
  {outcome : InjectionOutcome}

theorem outcome_of_called {args : List Argument}
    (known : (grammars.get? found.name.name).isSome = true)
    (called : found.cls.superArguments? = some args) :
    ∃ value, (injector.treat grammars found).2 = (injector.addToArguments value args).2 := by
  obtain ⟨grammar, given⟩ := Option.isSome_iff_exists.mp known
  obtain ⟨site, filled⟩ := SuperCallSite.exists_fill called
  refine ⟨.madeJsonParse grammar.compact, ?_⟩
  simp only [treat, given, filled, addToClass_fill]

/-- A class whose call has a known place is judged by its configuration. -/
theorem placed_of_accepts {args : List Argument}
    (known : (grammars.get? found.name.name).isSome = true)
    (called : found.cls.superArguments? = some args) (accepts : AcceptsConfiguration args) :
    ∃ value placed, Placed injector value ((configuration? args).getD []) placed
      (injector.treat grammars found).2 := by
  obtain ⟨value, same⟩ := injector.outcome_of_called known called
  have step := addProperty_placed injector value ((configuration? args).getD [])
  rw [addToArguments_of_accepts injector value accepts] at same
  exact ⟨value, _, same ▸ step⟩

theorem outcome_of_refused {args : List Argument}
    (known : (grammars.get? found.name.name).isSome = true)
    (called : found.cls.superArguments? = some args) (refuses : ¬AcceptsConfiguration args) :
    (injector.treat grammars found).2 = .skipped .unsupportedConfigShape := by
  obtain ⟨value, same⟩ := injector.outcome_of_called known called
  rw [same, addToArguments_of_not_accepts injector value refuses]

variable {injector}

/-- Where a property of the name is present, a step depends on the policy alone. -/
theorem Placed.outcome_of_present {value : Expr} {properties placed : List Property}
    (step : Placed injector value properties placed outcome)
    (present : ∃ property ∈ properties, property.Declares injector.property) :
    (injector.policy = .skip → outcome = .skipped .alreadyPresent) ∧
      (injector.policy = .replace → outcome = .replaced) := by
  obtain ⟨property, member, declared⟩ := present
  have counted : 0 < properties.countP (declares injector.property) :=
    List.countP_pos_iff.mpr ⟨property, member, declares_iff.mpr declared⟩
  obtain ⟨-, replaced, kept⟩ := step.outcome_iff
  exact ⟨fun policy => kept.mpr ⟨policy, counted⟩, fun policy => replaced.mpr ⟨policy, counted⟩⟩

/-- A step adds the property where there is room for it. -/
theorem Placed.injected_iff_room {value : Expr} {properties placed : List Property}
    (step : Placed injector value properties placed outcome) :
    outcome = .injected ↔ injector.policy = .append ∨
      ∀ property ∈ properties, ¬property.Declares injector.property := by
  rw [step.outcome_iff.1, List.countP_eq_zero]
  simp only [declares_iff]

theorem Verdict.outcome_eq (verdict : Verdict injector grammars found outcome) :
    (injector.treat grammars found).2 = outcome := by
  cases verdict with
  | noGrammar unknown => simp only [treat, unknown]
  | noConstructor known bodiless =>
    obtain ⟨grammar, given⟩ := Option.isSome_iff_exists.mp known
    have none : found.cls.constructorBody? = none := List.findSome?_eq_none_iff.mpr bodiless
    simp only [treat, given, addToClass_of_noConstructor injector grammar none]
  | noSuperCall known constructed callless =>
    obtain ⟨grammar, given⟩ := Option.isSome_iff_exists.mp known
    have none := List.findSome?_eq_none_iff.mpr callless
    simp only [treat, given, addToClass_of_noSuperCall injector grammar constructed none]
  | spread known called early dotted =>
    exact injector.outcome_of_refused known called (not_accepts_iff.mpr (.inl ⟨_, early, dotted⟩))
  | noLiteral known called second other =>
    exact injector.outcome_of_refused known called
      (not_accepts_iff.mpr (.inr ⟨_, _, second, other⟩))
  | alreadyPresent known called accepts policy present =>
    obtain ⟨value, placed, step⟩ := injector.placed_of_accepts known called accepts
    exact (step.outcome_of_present present).1 policy
  | replaced known called accepts policy present =>
    obtain ⟨value, placed, step⟩ := injector.placed_of_accepts known called accepts
    exact (step.outcome_of_present present).2 policy
  | injected known called accepts room =>
    obtain ⟨value, placed, step⟩ := injector.placed_of_accepts known called accepts
    exact step.injected_iff_room.mpr room

theorem Verdict.of_placed {args : List Argument} {value : Expr} {placed : List Property}
    (known : (grammars.get? found.name.name).isSome = true)
    (called : found.cls.superArguments? = some args) (accepts : AcceptsConfiguration args)
    (step : Placed injector value ((configuration? args).getD []) placed outcome) :
    Verdict injector grammars found outcome := by
  have room := step.injected_iff_room
  generalize literal : (configuration? args).getD [] = properties at step room
  cases step with
  | appended => exact .injected known called accepts (literal ▸ room.mp rfl)
  | @exchanged before after old policy first declared =>
    refine .replaced known called accepts policy ⟨old, ?_, declares_iff.mp declared⟩
    simp [literal]
  | kept policy present =>
    obtain ⟨property, member, declared⟩ := present
    exact .alreadyPresent known called accepts policy
      ⟨property, literal ▸ member, declares_iff.mp declared⟩

/-- Every class has a verdict, and it is the one that is reported. -/
theorem verdict_treat (injector : Injector) (grammars : Grammars) (found : NamedClass) :
    Verdict injector grammars found (injector.treat grammars found).2 := by
  have of_outcome {outcome : InjectionOutcome} (verdict : Verdict injector grammars found outcome) :
      Verdict injector grammars found (injector.treat grammars found).2 := by
    rw [verdict.outcome_eq]
    exact verdict
  cases given : grammars.get? found.name.name with
  | none => exact of_outcome (.noGrammar given)
  | some grammar =>
    have known : (grammars.get? found.name.name).isSome = true := Option.isSome_of_eq_some given
    cases constructed : found.cls.constructorBody? with
    | none =>
      exact of_outcome (.noConstructor known (List.findSome?_eq_none_iff.mp constructed))
    | some body =>
      cases called : found.cls.superArguments? with
      | none =>
        have callless : body.findSome? Stmt.superArguments? = none := by
          simpa [ClassDef.superArguments?, constructed] using called
        exact of_outcome
          (.noSuperCall known constructed (List.findSome?_eq_none_iff.mp callless))
      | some args =>
        by_cases accepts : AcceptsConfiguration args
        · obtain ⟨value, placed, step⟩ := injector.placed_of_accepts known called accepts
          exact .of_placed known called accepts step
        · rcases not_accepts_iff.mp accepts with ⟨arg, early, dotted⟩ | ⟨dots, value, second, other⟩
          · exact of_outcome (.spread known called early dotted)
          · exact of_outcome (.noLiteral known called second other)

theorem verdict_iff : Verdict injector grammars found outcome ↔
    outcome = (injector.treat grammars found).2 := by
  constructor
  · intro verdict
    exact verdict.outcome_eq.symm
  · rintro rfl
    exact verdict_treat injector grammars found

theorem Extended.ne_of_injected {value : Expr} {args extended : List Argument}
    (step : Extended injector value args extended .injected) : extended ≠ args := by
  intro same
  cases step with
  | none | one => simp at same
  | literal first span rest placement =>
    cases placement with
    | appended room => simp at same

theorem treat_ne_of_injected (injected : (injector.treat grammars found).2 = .injected) :
    (injector.treat grammars found).1 ≠ found.cls := by
  obtain ⟨args, known, called⟩ : ∃ args, (grammars.get? found.name.name).isSome = true ∧
      found.cls.superArguments? = some args := by
    cases verdict_iff.mpr injected.symm with
    | injected known called accepts room => exact ⟨_, known, called⟩
  obtain ⟨grammar, given⟩ := Option.isSome_iff_exists.mp known
  obtain ⟨site, filled⟩ := SuperCallSite.exists_fill called
  have step := addToArguments_extended injector (.madeJsonParse grammar.compact) args
  simp only [treat, given, filled, addToClass_fill] at injected ⊢
  rw [injected] at step
  intro same
  have arguments := congrArg ClassDef.superArguments? same
  rw [SuperCallSite.superArguments_fill, SuperCallSite.superArguments_fill] at arguments
  exact step.ne_of_injected (Option.some.inj arguments)

/-- The report has one entry for every parser class, with the verdict on that class: the first thing
that it lacks, or what the policy makes of it. A class that is skipped stays as it is, and one that
receives the property does not. -/
theorem report_gives_verdict (injector : Injector) (aliases : Aliases) (grammars : Grammars)
    (program : Program) :
    let done := injector.inject aliases grammars program
    done.2.length = (program.parserClasses aliases).length ∧
    ∀ (index : Nat) (found : NamedClass), (program.parserClasses aliases)[index]? = some found →
      ∃ outcome after, done.2[index]? = some ⟨found.name.name, outcome⟩ ∧
        (done.1.parserClasses aliases)[index]? = some after ∧ after.name = found.name ∧
        (∀ verdict, Verdict injector grammars found verdict ↔ verdict = outcome) ∧
        (∀ reason, outcome = .skipped reason → after.cls = found.cls) ∧
        (outcome = .injected → after.cls ≠ found.cls) := by
  intro done
  refine ⟨?_, ?_⟩
  · rw [inject_report, List.length_map]
  · intro index found place
    refine ⟨(injector.treat grammars found).2, ⟨found.name, (injector.treat grammars found).1⟩,
      ?_, ?_, rfl, ?_, ?_, ?_⟩
    · exact injector.entry_inject grammars place
    · exact injector.class_inject grammars place
    · intro verdict
      exact verdict_iff
    · intro reason skipped
      exact injector.treat_of_skipped grammars skipped
    · intro injected
      exact treat_ne_of_injected injected

/-- With `skip`, a parser whose configuration has the property is reported as such and stays as it
is. -/
theorem report_gives_verdict_threeParsers :
    let injector : Injector := ⟨"serializedGrammar", .skip⟩
    let grammars : Grammars := ⟨[("Q", .null)]⟩
    let done := injector.inject ⟨["Parser"]⟩ grammars threeParsers
    ∃ found after, (threeParsers.parserClasses ⟨["Parser"]⟩)[1]? = some found ∧
      Verdict injector grammars found (.skipped .alreadyPresent) ∧
      done.2[1]? = some ⟨"Q", .skipped .alreadyPresent⟩ ∧
      (done.1.parserClasses ⟨["Parser"]⟩)[1]? = some after ∧ after.cls = found.cls := by
  intro injector grammars done
  have reported : done.2[1]? = some ⟨"Q", .skipped .alreadyPresent⟩ := rfl
  obtain ⟨outcome, after, listed, place, -, verdicts, kept, -⟩ :=
    (report_gives_verdict injector ⟨["Parser"]⟩ grammars threeParsers).2 1 _ rfl
  obtain rfl : .skipped .alreadyPresent = outcome := by
    have same := Option.some.inj (reported.symm.trans listed)
    exact congrArg ClassInjection.outcome same
  exact ⟨_, after, rfl, (verdicts _).mpr rfl, reported, place, kept _ rfl⟩

end Injector

end GrammarEmbed
