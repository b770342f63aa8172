import GrammarEmbed.Proofs.ExtractedGrammars
import GrammarEmbed.Proofs.InjectionReport
import GrammarEmbed.Proofs.RecordedRun

namespace GrammarEmbed

open Ast

namespace Ast

variable {α : Type} {change other : Ident → ClassDef → ClassDef × α}

theorem Item.updateClass_congr {item : Item}
    (same : ∀ found, item.class? = some found →
      change found.name found.cls = other found.name found.cls) :
    item.updateClass change = item.updateClass other := by
  cases declared : item.class? with
  | none => rw [updateClass_of_none change declared, updateClass_of_none other declared]
  | some named =>
    obtain ⟨declare, rfl, declares, updates⟩ := exists_declaration declared
    rw [updates, updates, same named (declares _)]

theorem Program.updateClasses_congr (program : Program)
    (same : ∀ found ∈ program.classes,
      change found.name found.cls = other found.name found.cls) :
    program.updateClasses change = program.updateClasses other := by
  have items : program.items.map (Item.updateClass change) =
      program.items.map (Item.updateClass other) := by
    apply List.map_congr_left
    intro item member
    refine Item.updateClass_congr fun found declared => same found ?_
    exact List.mem_filterMap.mpr ⟨item, member, declared⟩
  simp only [updateClasses, items]

end Ast

namespace Injector

variable (injector : Injector) {aliases : Aliases} {grammars others : Grammars}

/-- Injection looks up the names of the parser classes and nothing else. -/
theorem inject_congr {program : Program}
    (same : ∀ found ∈ program.parserClasses aliases,
      grammars.get? found.name.name = others.get? found.name.name) :
    injector.inject aliases grammars program = injector.inject aliases others program := by
  have visits : program.updateClasses (injector.visit aliases grammars) =
      program.updateClasses (injector.visit aliases others) := by
    apply program.updateClasses_congr
    intro found member
    by_cases parser : found.cls.inherits aliases = true
    · have known := same found (List.mem_filter.mpr ⟨member, parser⟩)
      simp only [visit_eq, treat, known]
    · simp [visit_eq, parser]
  simp only [inject, visits]

end Injector

namespace Precompiler

variable (config : Config) (filename : String)

/-- The outcome of a run depends on the grammars of the parser classes only. -/
theorem settled_congr {program : Program} {aliases : Aliases} {exports others : ParserExports}
    (responsive : exports.Responsive)
    (otherResponsive : others.Responsive)
    (agree : ∀ found ∈ program.parserClasses aliases,
      exports.grammar? found.name.name = others.grammar? found.name.name) :
    settled config filename program aliases (.ok (some exports)) =
      settled config filename program aliases (.ok (some others)) := by
  obtain ⟨grammars, obtained, lookups⟩ := loadedGrammars_responsive filename responsive
  obtain ⟨otherGrammars, otherObtained, otherLookups⟩ :=
    loadedGrammars_responsive filename otherResponsive
  have injected : config.injector.inject aliases grammars program =
      config.injector.inject aliases otherGrammars program := by
    apply config.injector.inject_congr
    intro found member
    rw [lookups, otherLookups, agree found member]
  simp only [settled_eq, obtained, otherObtained, injected]

/-- What a report entry says about the class it stands for, before and after the run. -/
structure Reported (config : Config) (exports : ParserExports) (entry : ClassInjection)
    (before after : NamedClass) : Prop where
  named : before.name.name = entry.className
  renamed : after.name = before.name
  carries : entry.changed = true → ∃ grammar, exports.grammar? entry.className = some grammar ∧
    after.cls.Carries config.grammarProperty grammar.compact
  absent : exports.grammar? entry.className = none →
    entry.outcome = .skipped .noGrammar ∧ after.cls = before.cls

theorem settled_reported (program : Program) (aliases : Aliases) {exports : ParserExports}
    (responsive : exports.Responsive) :
    ∃ after injections,
      settled config filename program aliases (.ok (some exports)) =
        (.ok (.transformed ⟨aliases, injections⟩), after) ∧
      injections.map ClassInjection.className =
        (program.parserClasses aliases).map (fun found => found.name.name) ∧
      ∀ (index : Nat) (entry : ClassInjection), injections[index]? = some entry →
        ∃ before found, (program.parserClasses aliases)[index]? = some before ∧
          (after.parserClasses aliases)[index]? = some found ∧
          Reported config exports entry before found := by
  obtain ⟨grammars, obtained, lookups⟩ := loadedGrammars_responsive filename responsive
  refine ⟨(config.injector.inject aliases grammars program).1,
    (config.injector.inject aliases grammars program).2, ?_, ?_, ?_⟩
  · simp only [settled_eq, obtained]
  · rw [Injector.inject_report, List.map_map]
    rfl
  · intro index entry reported
    have listed := reported
    rw [Injector.inject_report, List.getElem?_map, Option.map_eq_some_iff] at listed
    obtain ⟨before, place, rfl⟩ := listed
    refine ⟨before, ⟨before.name, (config.injector.treat grammars before).1⟩, place, ?_, rfl, rfl,
      ?_, ?_⟩
    · exact config.injector.class_inject grammars place
    · intro changed
      obtain ⟨_, after, grammar, placed, _, moved, _, _, known, configured, step⟩ :=
        Injector.inject_changed reported changed
      rw [config.injector.class_inject grammars place] at moved
      cases moved
      exact ⟨grammar, lookups _ ▸ known, placed, _, configured,
        step.made_mem ((ClassInjection.changed_iff _).mp changed),
        Property.isGrammar_made _ grammar.compact⟩
    · intro absent
      have unknown : grammars.get? before.name.name = none := (lookups _).trans absent
      rw [config.injector.treat_of_none unknown]
      exact ⟨rfl, rfl⟩

/-- Two runs of a program that passes the gate, whose runtimes answer with export maps that agree
on the parser classes, end in the same way, in whatever order the maps list their classes and
whatever else they hold. The report has one entry for every parser class: one that was changed
carries the grammar which the map gives for its name, and one whose name the map lacks is reported
as having no grammar and stays as it was. -/
theorem own_grammar_in_any_order {σ τ : Type} (runtime : Runtime (StateM σ))
    (other : Runtime (StateM τ)) (config : Config) (filename : String) (program : Program)
    (world : σ) (otherWorld : τ) (exports otherExports : ParserExports) (aliases : Aliases)
    (names : List String) (passed : config.gate program = .proceed aliases names)
    (answered : ∀ load ∈ (recordedInPlace runtime config filename program world).2,
      load.answer = .ok (some exports))
    (otherAnswered : ∀ load ∈ (recordedInPlace other config filename program otherWorld).2,
      load.answer = .ok (some otherExports))
    (responsive : exports.Responsive) (otherResponsive : otherExports.Responsive)
    (agree : ∀ name ∈ names, exports.grammar? name = otherExports.grammar? name) :
    (recordedInPlace runtime config filename program world).1 =
      (recordedInPlace other config filename program otherWorld).1 ∧
    (program.isClone = false → ∃ after injections,
      (recordedInPlace runtime config filename program world).1 =
        (after, .ok (.transformed ⟨aliases, injections⟩)) ∧
      injections.map ClassInjection.className = names ∧
      ∀ (index : Nat) (entry : ClassInjection), injections[index]? = some entry →
        ∃ before found, (program.parserClasses aliases)[index]? = some before ∧
          (after.parserClasses aliases)[index]? = some found ∧
          Reported config exports entry before found) := by
  have step := ran_recorded runtime config filename program .detached world
  have otherStep := ran_recorded other config filename program .detached otherWorld
  simp only [recordedInPlace_eq] at answered otherAnswered ⊢
  cases tagged : program.isClone with
  | true =>
    rw [(step.of_clone tagged).1, (otherStep.of_clone tagged).1]
    exact ⟨rfl, nofun⟩
  | false =>
    obtain ⟨-, rfl⟩ := Config.gate_proceed passed
    obtain ⟨left, result⟩ := step.of_answer tagged passed answered
    obtain ⟨otherLeft, otherResult⟩ := otherStep.of_answer tagged passed otherAnswered
    have same := settled_congr config filename responsive otherResponsive
      fun found member => agree _ (List.mem_map.mpr ⟨found, member, rfl⟩)
    obtain ⟨after, injections, settles, listed, reports⟩ :=
      settled_reported config filename program aliases responsive
    rw [left, result, otherLeft, otherResult, ← same, settles]
    exact ⟨rfl, fun _ => ⟨after, injections, rfl, listed, reports⟩⟩

/-- Two maps that list `P` and `R` the other way round, the second one with a class of another
name. Neither of them knows `Q`. -/
theorem own_grammar_in_any_order_threeParsers :
    let exports : ParserExports := ⟨[("P", .grammar (.bool true)), ("R", .grammar .null)]⟩
    let reordered : ParserExports :=
      ⟨[("R", .grammar .null), ("Base", .grammar (.str "x")), ("P", .grammar (.bool true))]⟩
    let first := recordedInPlace (.answering (.ok (some exports))) {} "p.js" threeParsers 0
    let second := recordedInPlace (.answering (.ok (some reordered))) {} "p.js" threeParsers 7
    first.1 = second.1 ∧ first.1.2 = .ok (.transformed ⟨⟨["Parser"]⟩,
      [⟨"P", .injected⟩, ⟨"Q", .skipped .noGrammar⟩, ⟨"R", .skipped .noConstructor⟩]⟩) ∧
    ∃ found, (first.1.1.parserClasses ⟨["Parser"]⟩)[0]? = some found ∧
      found.cls.Carries "serializedGrammar" "true" := by
  intro exports reordered first second
  have passed : ({} : Config).gate threeParsers = .proceed ⟨["Parser"]⟩ ["P", "Q", "R"] := by decide
  have agree : ∀ name ∈ ["P", "Q", "R"], exports.grammar? name = reordered.grammar? name := by
    simp [exports, reordered, ParserExports.grammar?, Table.get?, List.lookup_cons]
  obtain ⟨same, reports⟩ := own_grammar_in_any_order _ _ {} "p.js" threeParsers 0 7 exports
    reordered _ _ passed (answer_of_answering _ _ _ _ 0) (answer_of_answering _ _ _ _ 7)
    ⟨rfl, by decide, by simp [exports]⟩ ⟨rfl, by decide, by simp [reordered]⟩ agree
  obtain ⟨after, injections, finished, -, entries⟩ := reports rfl
  have result : first.1.2 = .ok (.transformed ⟨⟨["Parser"]⟩,
    [⟨"P", .injected⟩, ⟨"Q", .skipped .noGrammar⟩, ⟨"R", .skipped .noConstructor⟩]⟩) := rfl
  have listed : injections[0]? = some ⟨"P", .injected⟩ := by
    have both := (congrArg Prod.snd finished).symm.trans result
    cases both
    rfl
  obtain ⟨before, found, -, place, reported⟩ := entries 0 _ listed
  obtain ⟨grammar, given, carried⟩ := reported.carries rfl
  cases given
  have left : first.1.1 = after := congrArg Prod.fst finished
  exact ⟨same, result, found, left ▸ place, carried⟩

end Precompiler

end GrammarEmbed
