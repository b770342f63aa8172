import GrammarEmbed.Proofs.References

/-!
What the names that injection writes refer to. It declares nothing and looks at no declaration: in a
file that binds one of these names around the call, the name that is written means that binding, and
the class is reported as in any other file.
-/

namespace GrammarEmbed

open Ast

/-- What the report on a program is made from: of each parser class its name, whether it has a
constructor with a body, and what it hands to its superclass there. -/
def Ast.Program.superCalls (program : Program) (aliases : Aliases) :
    List (String × Bool × Option (List Argument)) :=
  (program.parserClasses aliases).map fun found =>
    (found.name.name, found.cls.constructorBody?.isSome, found.cls.superArguments?)

namespace Injector

variable (injector : Injector) (grammars : Grammars)

/-- A class with a `super(…)` statement is reported by the arguments of it. -/
theorem outcome_of_arguments (grammar : Json.Value) {cls : ClassDef} {args : List Argument}
    (called : cls.superArguments? = some args) :
    (injector.addToClass grammar cls).2 =
      (injector.addToArguments (.madeJsonParse grammar.compact) args).2 := by
  obtain ⟨site, rfl⟩ := SuperCallSite.exists_fill called
  rw [addToClass_fill]

/-- A class without one is reported by whether it has a constructor. -/
theorem outcome_of_uncalled (grammar : Json.Value) {cls : ClassDef}
    (uncalled : cls.superArguments? = none) :
    (injector.addToClass grammar cls).2 =
      .skipped (if cls.constructorBody?.isSome then .noSuperCall else .noConstructor) := by
  cases constructed : cls.constructorBody? with
  | none =>
    rw [addToClass_of_noConstructor injector grammar constructed]
    rfl
  | some stmts =>
    have silent : stmts.findSome? Stmt.superArguments? = none := by
      simpa [ClassDef.superArguments?, constructed] using uncalled
    rw [addToClass_of_noSuperCall injector grammar constructed silent]
    rfl

/-- Classes that agree in what the report is made from have the same outcome. -/
theorem outcome_congr {found other : NamedClass} (name : found.name.name = other.name.name)
    (built : found.cls.constructorBody?.isSome = other.cls.constructorBody?.isSome)
    (called : found.cls.superArguments? = other.cls.superArguments?) :
    (injector.treat grammars found).2 = (injector.treat grammars other).2 := by
  unfold treat
  rw [name]
  cases grammars.get? other.name.name with
  | none => rfl
  | some grammar =>
    cases handed : other.cls.superArguments? with
    | some args =>
      rw [handed] at called
      simp only [injector.outcome_of_arguments grammar called,
        injector.outcome_of_arguments grammar handed]
    | none =>
      rw [handed] at called
      simp only [injector.outcome_of_uncalled grammar called,
        injector.outcome_of_uncalled grammar handed, built]

/-- No declaration of a file makes a difference to its report. -/
theorem report_congr {aliases : Aliases} {program other : Program}
    (same : other.superCalls aliases = program.superCalls aliases) :
    (injector.inject aliases grammars other).2 = (injector.inject aliases grammars program).2 := by
  rw [inject_report, inject_report]
  unfold Program.superCalls at same
  -- the classes of the two programs correspond one by one
  generalize program.parserClasses aliases = classes at same
  generalize other.parserClasses aliases = others at same
  induction others generalizing classes with
  | nil =>
    cases classes with
    | nil => rfl
    | cons => cases same
  | cons first rest ih =>
    cases classes with
    | nil => cases same
    | cons found more =>
      simp only [List.map_cons, List.cons.injEq, Prod.mk.injEq] at same
      obtain ⟨⟨name, built, called⟩, tail⟩ := same
      rw [List.map_cons, List.map_cons, ih more tail, name,
        injector.outcome_congr grammars name built called]

/-- In a class that receives its grammar only the names that are written are looked up anew, and
the names that are bound around them stay. -/
theorem treat_of_changed {found : NamedClass}
    (changed : ∀ reason, (injector.treat grammars found).2 ≠ .skipped reason) :
    ∃ args extended, found.cls.superArguments? = some args ∧
      (injector.treat grammars found).1.superArguments? = some extended ∧
      (injector.treat grammars found).1.constructorNames = found.cls.constructorNames ∧
      ∃ dropped, Dropped injector.property ((configuration? args).getD [])
          (injector.treat grammars found).2 dropped ∧
        (argumentReferences extended ++ dropped).Perm
          (writtenNames args ++ argumentReferences args) := by
  obtain ⟨name, cls⟩ := found
  unfold treat at changed ⊢
  cases known : grammars.get? name.name with
  | none => simp [known] at changed
  | some grammar =>
    simp only [known] at changed ⊢
    cases called : cls.superArguments? with
    | none => exact absurd (injector.outcome_of_uncalled grammar called) (changed _)
    | some args =>
      obtain ⟨site, rfl⟩ := SuperCallSite.exists_fill called
      rw [addToClass_fill] at changed ⊢
      have step := addToArguments_extended injector (.madeJsonParse grammar.compact) args
      refine ⟨args, _, rfl, site.superArguments_fill _, ?_, step.references_perm changed⟩
      rw [SuperCallSite.constructorNames_fill, SuperCallSite.constructorNames_fill]

/-- A class that is reported as changed looks up in its call what it did before, but for what the
exchanged property did, and `JSON`, and `undefined` if the call had no argument. The names that are
bound around the call are those of the file as it was, so that each of the two means what it meant
there; and the report on the file does not depend on them. -/
theorem injected_names_bound_as_before (injector : Injector) (grammars : Grammars)
    (aliases : Aliases) (program : Program) :
    let done := injector.inject aliases grammars program
    (∀ (index : Nat) (entry : ClassInjection), done.2[index]? = some entry →
      entry.changed = true →
      ∃ found after args extended,
        (program.parserClasses aliases)[index]? = some found ∧
        found.name.name = entry.className ∧ found.cls.superArguments? = some args ∧
        (done.1.parserClasses aliases)[index]? = some after ∧
        after.cls.superArguments? = some extended ∧
        (∃ dropped,
          Dropped injector.property ((configuration? args).getD []) entry.outcome dropped ∧
          (argumentReferences extended ++ dropped).Perm
            (writtenNames args ++ argumentReferences args)) ∧
        done.1.namesAtCall after = program.namesAtCall found) ∧
    ∀ other : Program, other.superCalls aliases = program.superCalls aliases →
      (injector.inject aliases grammars other).2 = done.2 := by
  intro done
  refine ⟨?_, fun other same => injector.report_congr grammars same⟩
  intro index entry reported changed
  obtain ⟨found, place, rfl⟩ : ∃ found, (program.parserClasses aliases)[index]? = some found ∧
      ⟨found.name.name, (injector.treat grammars found).2⟩ = entry := by
    rw [inject_report, List.getElem?_map, Option.map_eq_some_iff] at reported
    exact reported
  obtain ⟨args, extended, called, calledAfter, names, looked⟩ :=
    injector.treat_of_changed grammars ((ClassInjection.changed_iff _).mp changed)
  refine ⟨found, _, args, extended, place, rfl, called, injector.class_inject grammars place,
    calledAfter, looked, ?_⟩
  have kept : done.1.declaredNames = program.declaredNames :=
    Program.declaredNames_updateClasses _ program
  rw [Program.namesAtCall, Program.namesAtCall, kept, names]

/-- A parser among two others, called without arguments, finds both names unbound. -/
theorem injected_names_bound_as_before_threeParsers :
    let injector : Injector := ⟨"serializedGrammar", .replace⟩
    let done := injector.inject ⟨["Parser"]⟩ ⟨[("P", .null)]⟩ threeParsers
    done.2[0]? = some ⟨"P", .injected⟩ ∧
    ∃ after, (done.1.parserClasses ⟨["Parser"]⟩)[0]? = some after ∧
      done.1.namesAtCall after = ["Parser", "P", "Q", "R", "P"] := by
  intro injector done
  have reported : done.2[0]? = some ⟨"P", .injected⟩ := rfl
  obtain ⟨found, after, args, extended, place, -, -, moved, -, -, names⟩ :=
    (injected_names_bound_as_before injector ⟨[("P", .null)]⟩ ⟨["Parser"]⟩ threeParsers).1 0 _
      reported rfl
  refine ⟨reported, after, moved, ?_⟩
  cases place
  exact names

/-- `class JSON extends Parser { constructor() { super(); } }` -/
def parserNamedJson : Program where
  span := .none
  kind := .module
  shebang := none
  items := [madeParser "JSON" [madeConstructor []]]

/-- The class receives its grammar, and looks itself up to parse it. -/
theorem parserNamedJson_captures :
    let injector : Injector := ⟨"serializedGrammar", .replace⟩
    let grammars : Grammars := ⟨[("JSON", .obj [("a", .num (.int 1))])]⟩
    let done := injector.inject ⟨["Parser"]⟩ grammars parserNamedJson
    ∃ after extended, done.2 = [⟨"JSON", .injected⟩] ∧
      done.1.parserClasses ⟨["Parser"]⟩ = [after] ∧
      after.cls.superArguments? = some extended ∧ "JSON" ∈ argumentReferences extended ∧
      "JSON" ∈ done.1.namesAtCall after := by
  refine ⟨_, _, rfl, rfl, rfl, ?_, ?_⟩
  · exact List.mem_cons_of_mem "undefined" List.mem_cons_self
  · exact List.mem_cons_self

end Injector

end GrammarEmbed
