import GrammarEmbed.Proofs.InjectionReport

/-!
Injection run after run, each time with a policy and grammars of its own. How often a literal
declares the property depends on how often it did at first and on the policies alone, and a run
leaves everything in the call but its own property as it was.
-/

namespace GrammarEmbed

open Ast

namespace Ast

/-- The place of a configuration is known: the first two arguments are not spread, and a second
one is a literal. -/
def AcceptsConfiguration (args : List Argument) : Prop :=
  (∀ arg ∈ args.take 2, Injector.isSpread arg = false) ∧
    ∀ dots value, args[1]? = some (.mk dots value) →
      ∃ span properties, value = .object span properties

/-- The arguments with these properties as their configuration. A literal that is there keeps its
place, and what is missing before a new one is `undefined`. -/
def withConfiguration (args : List Argument) (properties : List Property) : List Argument :=
  match args with
  | [] => [.mk none (.ident ⟨.none, "undefined"⟩), .mk none (.object .none properties)]
  | [first] => [first, .mk none (.object .none properties)]
  | first :: .mk dots (.object span _) :: rest =>
    first :: .mk dots (.object span properties) :: rest
  | args => args

def ClassDef.declarations (cls : ClassDef) (property : String) : Nat :=
  (cls.configuration?.getD []).countP (Injector.declares property)

variable {args : List Argument}

theorem AcceptsConfiguration.shapes (accepts : AcceptsConfiguration args) :
    args = [] ∨ (∃ first, args = [.mk none first]) ∨
      ∃ first span properties rest,
        args = .mk none first :: .mk none (.object span properties) :: rest := by
  obtain ⟨plain, literal⟩ := accepts
  rcases args with _ | ⟨⟨dots, first⟩, _ | ⟨⟨dots', second⟩, rest⟩⟩
  · exact .inl rfl
  · obtain rfl : dots = none := by simpa [Injector.isSpread] using plain
    exact .inr (.inl ⟨first, rfl⟩)
  · obtain ⟨rfl, rfl⟩ : dots = none ∧ dots' = none := by simpa [Injector.isSpread] using plain
    obtain ⟨span, properties, rfl⟩ := literal _ _ rfl
    exact .inr (.inr ⟨first, span, properties, rest, rfl⟩)

theorem AcceptsConfiguration.configuration_with (accepts : AcceptsConfiguration args)
    (properties : List Property) :
    configuration? (withConfiguration args properties) = some properties := by
  obtain rfl | ⟨first, rfl⟩ | ⟨first, span, old, rest, rfl⟩ := accepts.shapes <;> rfl

theorem AcceptsConfiguration.with_with (accepts : AcceptsConfiguration args)
    (properties others : List Property) :
    withConfiguration (withConfiguration args properties) others =
      withConfiguration args others := by
  obtain rfl | ⟨first, rfl⟩ | ⟨first, span, old, rest, rfl⟩ := accepts.shapes <;> rfl

theorem AcceptsConfiguration.accepts_with (accepts : AcceptsConfiguration args)
    (properties : List Property) : AcceptsConfiguration (withConfiguration args properties) := by
  obtain rfl | ⟨first, rfl⟩ | ⟨first, span, old, rest, rfl⟩ := accepts.shapes <;>
    simp [AcceptsConfiguration, withConfiguration, Injector.isSpread]

end Ast

namespace Injector

/-- Where the place is known, the configuration takes one step; a call without a literal counts as
one with an empty literal. -/
theorem addToArguments_of_accepts (injector : Injector) (value : Expr) {args : List Argument}
    (accepts : AcceptsConfiguration args) :
    injector.addToArguments value args =
      (withConfiguration args
        (injector.addProperty value ((configuration? args).getD [])).1,
        (injector.addProperty value ((configuration? args).getD [])).2) := by
  obtain rfl | ⟨first, rfl⟩ | ⟨first, span, old, rest, rfl⟩ := accepts.shapes
  · rfl
  · rfl
  · simp [addToArguments, isSpread, configuration?, withConfiguration]

variable {injector : Injector} {value : Expr} {properties placed : List Property}
  {outcome : InjectionOutcome}

/-- How a step goes is decided by its policy and by how often the property is declared. -/
theorem Placed.outcome_iff (step : Placed injector value properties placed outcome) :
    (outcome = .injected ↔
      injector.policy = .append ∨ properties.countP (declares injector.property) = 0) ∧
    (outcome = .replaced ↔
      injector.policy = .replace ∧ 0 < properties.countP (declares injector.property)) ∧
    (outcome = .skipped .alreadyPresent ↔
      injector.policy = .skip ∧ 0 < properties.countP (declares injector.property)) := by
  cases step with
  | appended room =>
    rcases room with policy | absent
    · simp [policy]
    · have none : properties.countP (declares injector.property) = 0 := by
        simpa [List.countP_eq_zero] using absent
      simp [none]
  | @exchanged before after old policy first declared =>
    have some : 0 < (before ++ old :: after).countP (declares injector.property) :=
      List.countP_pos_iff.mpr ⟨old, by simp, declared⟩
    simp only [policy, some, Nat.ne_of_gt some]
    decide
  | kept policy present =>
    have some : 0 < properties.countP (declares injector.property) :=
      List.countP_pos_iff.mpr present
    simp only [policy, some, Nat.ne_of_gt some]
    decide

theorem Placed.count (step : Placed injector value properties placed outcome) :
    placed.countP (declares injector.property) =
      properties.countP (declares injector.property) + if outcome = .injected then 1 else 0 := by
  cases step with
  | appended room => simp [declares_made]
  | exchanged policy first declared => simp [declares_made, declared]
  | kept policy present => simp

/-- The properties are as they were, except that the first one of the name may have been exchanged
for one that was `written`. -/
inductive Overwritten (name : String) (written : Property → Prop) :
    List Property → List Property → Prop where
  | same (properties : List Property) : Overwritten name written properties properties
  | first {before after : List Property} {old new : Property}
      (first : ∀ property ∈ before, declares name property = false)
      (declared : declares name old = true) (fresh : written new) :
      Overwritten name written (before ++ old :: after) (before ++ new :: after)

/-- The properties are overwritten ones, and behind them such as were `written`. -/
def Outgrown (name : String) (written : Property → Prop) (properties grown : List Property) :
    Prop :=
  ∃ kept added, grown = kept ++ added ∧ Overwritten name written properties kept ∧
    ∀ property ∈ added, written property

private theorem first_split_unique {test : Property → Bool}
    {before after before' after' : List Property}
    {here here' : Property} (same : before ++ here :: after = before' ++ here' :: after')
    (first : ∀ property ∈ before, test property = false) (passes : test here = true)
    (first' : ∀ property ∈ before', test property = false) (passes' : test here' = true) :
    before = before' ∧ after = after' := by
  induction before generalizing before' with
  | nil =>
    cases before' with
    | nil => exact ⟨rfl, (List.cons.inj same).2⟩
    | cons property rest =>
      obtain ⟨rfl, -⟩ := List.cons.inj same
      simp [first' here List.mem_cons_self] at passes
  | cons property rest ih =>
    cases before' with
    | nil =>
      obtain ⟨rfl, -⟩ := List.cons.inj same
      simp [first property List.mem_cons_self] at passes'
    | cons property' rest' =>
      obtain ⟨rfl, tails⟩ := List.cons.inj same
      obtain ⟨rfl, rfl⟩ := ih tails (fun p member => first p (List.mem_cons_of_mem _ member))
        fun p member => first' p (List.mem_cons_of_mem _ member)
      exact ⟨rfl, rfl⟩

variable {written : Property → Prop} {initial : List Property}

/-- Exchanging the first one of the name once more is exchanging it once. -/
theorem Overwritten.exchange {before after : List Property} {old new : Property}
    (declaring : ∀ property, written property → declares injector.property property = true)
    (start : Overwritten injector.property written initial (before ++ old :: after))
    (first : ∀ property ∈ before, declares injector.property property = false)
    (declared : declares injector.property old = true) (fresh : written new) :
    Overwritten injector.property written initial (before ++ new :: after) := by
  generalize kept_eq : before ++ old :: after = kept at start
  cases start with
  | same =>
    subst kept_eq
    exact .first first declared fresh
  | first earlier was already =>
    obtain ⟨rfl, rfl⟩ := first_split_unique kept_eq first declared earlier (declaring _ already)
    exact .first first was fresh

/-- A step keeps what was there at first, in its place, up to the first one of the name. -/
theorem Outgrown.step
    (declaring : ∀ property, written property → declares injector.property property = true)
    (start : Outgrown injector.property written initial properties)
    (step : Placed injector value properties placed outcome)
    (fresh : written (.made injector.property value)) :
    Outgrown injector.property written initial placed := by
  obtain ⟨kept, added, grown, overwritten, new⟩ := start
  cases step with
  | appended room =>
    subst grown
    refine ⟨kept, added ++ [.made injector.property value], by simp, overwritten, ?_⟩
    intro property member
    rcases List.mem_append.mp member with earlier | last
    · exact new property earlier
    · exact List.mem_singleton.mp last ▸ fresh
  | kept policy present => exact ⟨kept, added, grown, overwritten, new⟩
  | @exchanged before after old policy first declared =>
    -- the exchanged property stands among those of the beginning or among the later ones
    rcases List.append_eq_append_iff.mp grown with ⟨middle, rfl, rest⟩ | ⟨middle, rfl, rest⟩
    · cases middle with
      | nil =>
        obtain rfl : old :: after = added := by simpa using rest
        refine ⟨before, .made injector.property value :: after, rfl, by simpa using overwritten, ?_⟩
        intro property member
        rcases List.mem_cons.mp member with rfl | later
        · exact fresh
        · exact new property (List.mem_cons_of_mem _ later)
      | cons head tail =>
        obtain ⟨rfl, rfl⟩ : old = head ∧ after = tail ++ added := by simpa using rest
        refine ⟨before ++ .made injector.property value :: tail, added, by simp, ?_, new⟩
        exact overwritten.exchange declaring first declared fresh
    · subst rest
      refine ⟨kept, middle ++ .made injector.property value :: after, by simp, overwritten, ?_⟩
      intro property member
      rcases List.mem_append.mp member with earlier | later
      · exact new property (by simp [earlier])
      · rcases List.mem_cons.mp later with rfl | behind
        · exact fresh
        · exact new property (by simp [behind])

end Injector

/-- One run of injection: what it does about a property that is there, and the grammars it
brings. -/
structure PolicyRun where
  policy : DuplicatePolicy
  grammars : Grammars

namespace PolicyRun

def injector (run : PolicyRun) (property : String) : Injector :=
  ⟨property, run.policy⟩

@[simp] theorem property_injector (run : PolicyRun) (property : String) :
    (run.injector property).property = property :=
  rfl

@[simp] theorem policy_injector (run : PolicyRun) (property : String) :
    (run.injector property).policy = run.policy :=
  rfl

def value (run : PolicyRun) (name : String) : Expr :=
  .madeJsonParse ((run.grammars.get? name).getD .null).compact

variable (property : String) (aliases : Aliases) (name : String)

def apply (program : Program) (run : PolicyRun) : Program :=
  ((run.injector property).inject aliases run.grammars program).1

def applyAll (program : Program) (runs : List PolicyRun) : Program :=
  runs.foldl (apply property aliases) program

def placeAll (properties : List Property) (runs : List PolicyRun) : List Property :=
  runs.foldl
    (fun properties run => ((run.injector property).addProperty (run.value name) properties).1)
    properties

def isAppend (run : PolicyRun) : Bool :=
  run.policy == .append

theorem count_addProperty (properties : List Property) (run : PolicyRun) :
    ((run.injector property).addProperty (run.value name) properties).1.countP
        (Injector.declares property) =
      properties.countP (Injector.declares property) +
        if run.isAppend = true ∨ properties.countP (Injector.declares property) = 0
        then 1 else 0 := by
  have step := Injector.addProperty_placed (run.injector property) (run.value name) properties
  have count := step.count
  have injected := step.outcome_iff.1
  simp only [property_injector, policy_injector] at count injected
  rw [count]
  simp only [injected, isAppend, beq_iff_eq]

/-- Once the property is declared, only `append` adds to it. -/
theorem count_placeAll_of_pos {properties : List Property} (runs : List PolicyRun)
    (present : 0 < properties.countP (Injector.declares property)) :
    (placeAll property name properties runs).countP (Injector.declares property) =
      properties.countP (Injector.declares property) + runs.countP isAppend := by
  induction runs generalizing properties with
  | nil => rfl
  | cons run rest ih =>
    have count := count_addProperty property name properties run
    have still : 0 < ((run.injector property).addProperty (run.value name) properties).1.countP
        (Injector.declares property) := by omega
    rw [placeAll, List.foldl_cons, ← placeAll, ih still, count, List.countP_cons]
    by_cases appends : run.isAppend = true
    · simp [appends]
      omega
    · simp [appends, Nat.ne_of_gt present]

/-- A first run makes sure that the property is declared. -/
theorem count_placeAll (properties : List Property) (run : PolicyRun) (rest : List PolicyRun) :
    (placeAll property name properties (run :: rest)).countP (Injector.declares property) =
      properties.countP (Injector.declares property) + (run :: rest).countP isAppend +
        if properties.countP (Injector.declares property) = 0 ∧ run.policy ≠ .append
        then 1 else 0 := by
  have count := count_addProperty property name properties run
  have present : 0 < ((run.injector property).addProperty (run.value name) properties).1.countP
      (Injector.declares property) := by
    rw [count]
    split <;> omega
  have later := count_placeAll_of_pos property name rest present
  rw [placeAll, List.foldl_cons, ← placeAll, later, count, List.countP_cons]
  by_cases appends : run.policy = .append
  · simp [isAppend, appends]
    omega
  · simp [isAppend, appends]
    omega

/-- The property was written by one of the runs, with its grammar for the class. -/
def Wrote (runs : List PolicyRun) (written : Property) : Prop :=
  ∃ run ∈ runs, ∃ grammar, run.grammars.get? name = some grammar ∧
    written.IsGrammar property grammar.compact

variable {property name} in
theorem Wrote.declares {runs : List PolicyRun} {written : Property}
    (wrote : Wrote property name runs written) :
    Injector.declares property written = true := by
  obtain ⟨run, -, grammar, -, value, rfl, -⟩ := wrote
  exact Injector.declares_made property value

theorem outgrown_placeAll {initial properties : List Property} {all runs : List PolicyRun}
    (start : Injector.Outgrown property (Wrote property name all) initial properties)
    (among : ∀ run ∈ runs, run ∈ all)
    (given : ∀ run ∈ all, (run.grammars.get? name).isSome = true) :
    Injector.Outgrown property (Wrote property name all) initial
      (placeAll property name properties runs) := by
  induction runs generalizing properties with
  | nil => exact start
  | cons run rest ih =>
    have member := among run List.mem_cons_self
    obtain ⟨grammar, known⟩ := Option.isSome_iff_exists.mp (given run member)
    have fresh : Wrote property name all (.made property (run.value name)) :=
      ⟨run, member, grammar, known, by
        rw [value, known, Option.getD_some]
        exact Property.isGrammar_made property grammar.compact⟩
    have step := Injector.addProperty_placed (run.injector property) (run.value name) properties
    apply ih
    · exact Injector.Outgrown.step (fun _ wrote => wrote.declares) start step fresh
    · exact fun run found => among run (List.mem_cons_of_mem _ found)

variable {aliases} {program : Program} {index : Nat} {className : Ident}
  {site : SuperCallSite} {args : List Argument}

/-- One run over a class with a known place: its configuration takes one step, and the report says
which. -/
theorem class_apply {run : PolicyRun}
    (found : (program.parserClasses aliases)[index]? = some ⟨className, site.fill args⟩)
    (accepts : AcceptsConfiguration args)
    (given : (run.grammars.get? className.name).isSome = true) :
    let step := (run.injector property).addProperty (run.value className.name)
      ((configuration? args).getD [])
    ((apply property aliases program run).parserClasses aliases)[index]? =
      some ⟨className, site.fill (withConfiguration args step.1)⟩ ∧
    ((run.injector property).inject aliases run.grammars program).2[index]? =
      some ⟨className.name, step.2⟩ := by
  obtain ⟨grammar, known⟩ := Option.isSome_iff_exists.mp given
  have treated : (run.injector property).treat run.grammars ⟨className, site.fill args⟩ =
      (run.injector property).addToClass grammar (site.fill args) := by
    simp only [Injector.treat, known]
  have written : run.value className.name = .madeJsonParse grammar.compact := by
    rw [value, known, Option.getD_some]
  rw [apply, Injector.parserClasses_inject, Injector.inject_report, List.getElem?_map,
    List.getElem?_map, found, Option.map_some, Option.map_some, treated, Injector.addToClass_fill,
    Injector.addToArguments_of_accepts _ _ accepts, written]
  exact ⟨rfl, rfl⟩

theorem class_applyAll {runs : List PolicyRun}
    (found : (program.parserClasses aliases)[index]? = some ⟨className, site.fill args⟩)
    (accepts : AcceptsConfiguration args)
    (given : ∀ run ∈ runs, (run.grammars.get? className.name).isSome = true) :
    ∃ after, ((applyAll property aliases program runs).parserClasses aliases)[index]? =
        some ⟨className, site.fill after⟩ ∧
      AcceptsConfiguration after ∧
      (configuration? after).getD [] =
        placeAll property className.name ((configuration? args).getD []) runs ∧
      after = if runs = [] then args else withConfiguration args
        (placeAll property className.name ((configuration? args).getD []) runs) := by
  induction runs generalizing program args with
  | nil => exact ⟨args, found, accepts, rfl, rfl⟩
  | cons run rest ih =>
    obtain ⟨stepped, -⟩ := class_apply property found accepts
      (given run List.mem_cons_self)
    obtain ⟨after, place, still, literal, same⟩ := ih stepped (accepts.accepts_with _)
      fun run member => given run (List.mem_cons_of_mem _ member)
    rw [accepts.configuration_with, Option.getD_some] at literal same
    refine ⟨after, place, still, literal, ?_⟩
    rw [if_neg (List.cons_ne_nil _ _), same]
    split
    · rename_i last
      subst last
      rfl
    · exact accepts.with_with _ _

/-- The law of runs with mixed policies. Each run over a class whose call has a known place goes by
its policy and by how often the property is declared before it. After any runs, that number is
what it was, one more for every `append`, and one more if a first run found none. Everything else
in the class stays as it was: the call has its other arguments, and its configuration has the
properties of the beginning, of which at most the first one of the name is exchanged, and behind
them only such as the runs have written. -/
theorem policy_run_law (property : String) (aliases : Aliases) (program : Program) (index : Nat)
    (found : NamedClass) (args : List Argument) (runs : List PolicyRun)
    (matching : (program.parserClasses aliases)[index]? = some found)
    (called : found.cls.superArguments? = some args) (accepts : AcceptsConfiguration args)
    (given : ∀ run ∈ runs, (run.grammars.get? found.name.name).isSome = true) :
    (∀ earlier run later, runs = earlier ++ run :: later →
      let before := applyAll property aliases program earlier
      ∃ current outcome, (before.parserClasses aliases)[index]? = some current ∧
        ((run.injector property).inject aliases run.grammars before).2[index]? =
          some ⟨found.name.name, outcome⟩ ∧
        (outcome = .injected ↔
          run.policy = .append ∨ current.cls.declarations property = 0) ∧
        (outcome = .replaced ↔
          run.policy = .replace ∧ 0 < current.cls.declarations property) ∧
        (outcome = .skipped .alreadyPresent ↔
          run.policy = .skip ∧ 0 < current.cls.declarations property)) ∧
    (∀ first rest, runs = first :: rest →
      ∃ (site : SuperCallSite) (final : NamedClass) (properties : List Property),
        ((applyAll property aliases program runs).parserClasses aliases)[index]? = some final ∧
        final.name = found.name ∧ found.cls = site.fill args ∧
        final.cls = site.fill (withConfiguration args properties) ∧
        Injector.Outgrown property (Wrote property found.name.name runs)
          (found.cls.configuration?.getD []) properties ∧
        final.cls.declarations property = found.cls.declarations property +
          runs.countP isAppend +
          if found.cls.declarations property = 0 ∧ first.policy ≠ .append then 1 else 0) := by
  obtain ⟨site, filled⟩ := SuperCallSite.exists_fill called
  obtain ⟨className, cls⟩ := found
  obtain rfl : cls = site.fill args := filled
  have configured : (site.fill args).configuration? = configuration? args :=
    site.configuration_fill args
  constructor
  · rintro earlier run later rfl before
    obtain ⟨reached, place, still, literal, -⟩ := class_applyAll property matching
      accepts fun run (member : run ∈ earlier) => given run (by simp [member])
    obtain ⟨-, reported⟩ := class_apply property place still
      (given run (by simp))
    have goes := (Injector.addProperty_placed (run.injector property) (run.value className.name)
      ((configuration? reached).getD [])).outcome_iff
    refine ⟨_, _, place, reported, ?_⟩
    simpa [ClassDef.declarations, site.configuration_fill] using goes
  · rintro first rest rfl
    obtain ⟨final, place, -, -, same⟩ := class_applyAll property matching accepts given
    rw [if_neg (List.cons_ne_nil _ _)] at same
    subst same
    refine ⟨site, _, _, place, rfl, rfl, rfl, ?_, ?_⟩
    · rw [configured]
      exact outgrown_placeAll property className.name ⟨_, [], by simp, .same _, by simp⟩
        (fun _ member => member) given
    · rw [ClassDef.declarations, ClassDef.declarations, site.configuration_fill, configured,
        accepts.configuration_with, Option.getD_some]
      exact count_placeAll property className.name _ first rest

/-- Three runs over a class that calls its superclass without arguments: the first one makes the
literal although it says `skip`, the second one adds to it, and the third one exchanges. -/
theorem policy_run_law_threeParsers :
    let runs : List PolicyRun := [⟨.skip, ⟨[("P", .null)]⟩⟩, ⟨.append, ⟨[("P", .bool true)]⟩⟩,
      ⟨.replace, ⟨[("P", .bool false)]⟩⟩]
    let found : NamedClass :=
      ⟨.made "P", .mk .none (some (.madeIdent "Parser")) [madeConstructor []]⟩
    (threeParsers.parserClasses ⟨["Parser"]⟩)[0]? = some found ∧
    found.cls.superArguments? = some [] ∧ AcceptsConfiguration [] ∧
    (∀ run ∈ runs, (run.grammars.get? found.name.name).isSome = true) ∧
    ∃ final, ((applyAll "serializedGrammar" ⟨["Parser"]⟩ threeParsers runs).parserClasses
        ⟨["Parser"]⟩)[0]? = some final ∧
      final.cls.declarations "serializedGrammar" = 2 := by
  intro runs found
  have matching : (threeParsers.parserClasses ⟨["Parser"]⟩)[0]? = some found := rfl
  have called : found.cls.superArguments? = some [] := rfl
  have accepts : AcceptsConfiguration [] := by simp [AcceptsConfiguration]
  have given : ∀ run ∈ runs, (run.grammars.get? found.name.name).isSome = true := by decide
  obtain ⟨-, after⟩ := policy_run_law "serializedGrammar" ⟨["Parser"]⟩ threeParsers 0 found [] runs
    matching called accepts given
  obtain ⟨site, final, properties, place, -, -, -, -, count⟩ := after _ _ rfl
  have none : found.cls.declarations "serializedGrammar" = 0 := rfl
  refine ⟨matching, called, accepts, given, final, place, ?_⟩
  rw [count, none]
  rfl

end PolicyRun

end GrammarEmbed
