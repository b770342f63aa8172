import GrammarEmbed.Proofs.InjectionReport
import GrammarEmbed.Proofs.RecordedRun

namespace GrammarEmbed

open Ast

theorem TransformReport.unmodified_iff (report : TransformReport) :
    (Outcome.transformed report).modified = false ↔
      ∀ entry ∈ report.injections, entry.changed = false := by
  simp [Outcome.modified, injectedCount]

namespace Precompiler

variable {config : Config} {filename : String} {program : Program} {printer : Printer}
  {done : Precompiled} {loads : List Load}

/-- A run that fails or reports no change leaves the program as it was. -/
theorem Ran.untouched (step : Ran config filename program printer done loads)
    (quiet : ∀ outcome, done.result = .ok outcome → outcome.modified = false) :
    done.program = program := by
  cases step with
  | clone | gated => rfl
  | loaded plain passed key answer =>
    rw [settled_eq] at quiet ⊢
    generalize loadedGrammars filename answer = obtained at quiet ⊢
    rcases obtained with error | _ | grammars
    · rfl
    · rfl
    · apply config.injector.inject_of_unchanged
      exact (TransformReport.unmodified_iff _).mp (quiet _ rfl)

/-- A class carries the grammar that a load has given for the class of a report entry. -/
def Delivered (config : Config) (filename : String) (loads : List Load) (entry : ClassInjection)
    (found : NamedClass) : Prop :=
  found.name.name = entry.className ∧
    ∃ load ∈ loads, ∃ grammars grammar, loadedGrammars filename load.answer = .ok (some grammars) ∧
      grammars.get? entry.className = some grammar ∧
      found.cls.Carries config.grammarProperty grammar.compact

theorem Ran.delivered {report : TransformReport} {index : Nat} {entry : ClassInjection}
    (step : Ran config filename program printer done loads)
    (success : done.result = .ok (.transformed report))
    (reported : report.injections[index]? = some entry) (changed : entry.changed = true) :
    ∃ found, (done.program.parserClasses report.aliases)[index]? = some found ∧
      Delivered config filename loads entry found := by
  cases step with
  | clone | gated => cases success
  | loaded plain passed key answer =>
    obtain ⟨grammars, obtained, moved, rfl⟩ := settled_transformed success
    obtain ⟨before, after, grammar, placed, _, place, renamed, named, known, configured, written⟩ :=
      Injector.inject_changed reported changed
    have carried : after.cls.Carries config.grammarProperty grammar.compact :=
      ⟨placed, _, configured, written.made_mem ((ClassInjection.changed_iff entry).mp changed),
        Property.isGrammar_made _ grammar.compact⟩
    refine ⟨after, ?_, renamed ▸ named, _, List.mem_singleton_self _, grammars, grammar, obtained,
      known, carried⟩
    rw [moved]
    exact place

section Text

variable {σ : Type} {runtime : Runtime (StateM σ)} {text : String} {world : σ}

theorem runText_eq :
    (StateT.run (runText runtime config text filename) world).1 =
      match Source.parse text filename with
      | .error error => .error error
      | .ok source =>
        let done := StateT.run
          (run runtime config filename source.program (.attached source.comments)) world
        done.1.result.map fun outcome =>
          if outcome.modified then ((done.1.program.print done.1.comments).1, outcome)
          else (text, outcome) := by
  unfold runText
  generalize Source.parse text filename = parsed
  cases parsed <;> rfl

theorem runText_unmodified {source : Source} {outcome : Outcome}
    (parsed : Source.parse text filename = .ok source)
    (success :
      (StateT.run (run runtime config filename source.program (.attached source.comments))
        world).1.result = .ok outcome)
    (unmodified : outcome.modified = false) :
    (StateT.run (runText runtime config text filename) world).1 = .ok (text, outcome) := by
  rw [runText_eq, parsed]
  simp [success, Except.map, unmodified]

theorem eq_of_runText_unmodified {code : String} {outcome : Outcome}
    (success : (StateT.run (runText runtime config text filename) world).1 = .ok (code, outcome))
    (unmodified : outcome.modified = false) : code = text := by
  rw [runText_eq] at success
  generalize Source.parse text filename = parsed at success
  cases parsed with
  | error error => cases success
  | ok source =>
    dsimp only at success
    generalize (StateT.run (run runtime config filename source.program
      (.attached source.comments)) world).1 = done at success
    obtain ⟨program, comments, result⟩ := done
    cases result with
    | error error => cases success
    | ok reached =>
      by_cases modified : reached.modified = true
      · obtain ⟨-, rfl⟩ : (program.print comments).1 = code ∧ reached = outcome := by
          simpa [Except.map, modified] using success
        rw [modified] at unmodified
        cases unmodified
      · obtain ⟨same, -⟩ : text = code ∧ reached = outcome := by
          simpa [Except.map, modified] using success
        exact same.symm

end Text

/-- No partial change. A run in place that fails, or whose outcome reports no change, leaves the
program as it was, and an outcome that reports a change names a class that carries its grammar. A
text comes back as it was if the outcome of its run reports no change. -/
theorem no_partial_change {σ : Type} (runtime : Runtime (StateM σ)) (config : Config)
    (filename : String) (program after : Program) (result : Except Error Outcome)
    (loads : List Load) (world : σ)
    (ran : recordedInPlace runtime config filename program world = ((after, result), loads)) :
    ((∃ error, result = .error error) ∨
      (∃ outcome, result = .ok outcome ∧ outcome.modified = false) → after = program) ∧
    (∀ report, result = .ok (.transformed report) → (Outcome.transformed report).modified = true →
      ∃ (index : Nat) (entry : ClassInjection) (found : NamedClass),
        report.injections[index]? = some entry ∧ entry.changed = true ∧
        (after.parserClasses report.aliases)[index]? = some found ∧
        Delivered config filename loads entry found) ∧
    (∀ text source outcome, Source.parse text filename = .ok source →
      (StateT.run (run runtime config filename source.program (.attached source.comments))
        world).1.result = .ok outcome → outcome.modified = false →
      (StateT.run (runText runtime config text filename) world).1 = .ok (text, outcome)) ∧
    (∀ text code outcome, (StateT.run (runText runtime config text filename) world).1 =
      .ok (code, outcome) → outcome.modified = false → code = text) := by
  have step := ran_recorded runtime config filename program .detached world
  rw [recordedInPlace_eq] at ran
  obtain ⟨⟨rfl, rfl⟩, rfl⟩ := by simpa only [Prod.mk.injEq] using ran
  refine ⟨?_, ?_, ?_, ?_⟩
  · intro stopped
    apply step.untouched
    intro outcome success
    rcases stopped with ⟨error, failed⟩ | ⟨other, same, unmodified⟩
    · rw [failed] at success
      cases success
    · rw [same] at success
      cases success
      exact unmodified
  · intro report success modified
    obtain ⟨entry, member, changed⟩ : ∃ entry ∈ report.injections, entry.changed = true := by
      simpa [Outcome.modified, TransformReport.injectedCount] using modified
    obtain ⟨index, reported⟩ := List.getElem?_of_mem member
    obtain ⟨found, place, delivered⟩ := step.delivered success reported changed
    exact ⟨index, entry, found, reported, changed, place, delivered⟩
  · intro text source outcome parsed success unmodified
    exact runText_unmodified parsed success unmodified
  · intro text code outcome success unmodified
    exact eq_of_runText_unmodified success unmodified

/-- The first of the parsers could have been changed before the second one fails. -/
theorem no_partial_change_threeParsers :
    let runtime := Runtime.answering (.ok (some ⟨[("P", .grammar (.bool true)),
      ("Q", .introspectFails "boom")]⟩))
    let done := recordedInPlace runtime {} "p.js" threeParsers 0
    done.1.2 = .error (.extraction "p.js" "Q" "boom") ∧ done.1.1 = threeParsers := by
  intro runtime done
  have failed : done.1.2 = .error (.extraction "p.js" "Q" "boom") := rfl
  have untouched := (no_partial_change runtime {} "p.js" threeParsers _ _ _ 0 rfl).1
  exact ⟨failed, untouched (.inl ⟨_, failed⟩)⟩

end Precompiler

end GrammarEmbed
