import GrammarEmbed.Proofs.InjectionReport
import GrammarEmbed.Proofs.RecordedRun

namespace GrammarEmbed

open Ast

def Outcome.again : Outcome → Outcome
  | .skipped reason => .skipped reason
  | .transformed report =>
    .transformed { report with injections := report.injections.map ClassInjection.again }

namespace Precompiler

variable {config : Config} {filename : String} {aliases : Aliases} {program : Program}

/-- The same answer of the runtime, put into the program that it has led to. -/
theorem settled_again (policy : config.duplicatePolicy = .replace)
    {loaded : Except Error (Option ParserExports)} {after : Program} {outcome : Outcome}
    (success : settled config filename program aliases loaded = (.ok outcome, after)) :
    settled config filename after aliases loaded = (.ok outcome.again, after) := by
  rw [settled_eq] at success ⊢
  generalize loadedGrammars filename loaded = obtained at success ⊢
  rcases obtained with error | _ | grammars
  · cases success
  · cases success
    rfl
  · cases success
    simp only [config.injector.inject_again aliases grammars policy program]
    rfl

variable (filename) in
/-- What the gate and the clone test see of a program is there after the run, too. -/
theorem settled_keeps_analysis (plain : program.isClone = false) {names : List String}
    (passed : config.gate program = .proceed aliases names)
    (loaded : Except Error (Option ParserExports)) :
    (settled config filename program aliases loaded).2.isClone = false ∧
      config.gate (settled config filename program aliases loaded).2 = .proceed aliases names := by
  rw [settled_eq]
  obtain ⟨rfl, -⟩ := Config.gate_proceed passed
  rcases loadedGrammars filename loaded with error | _ | grammars
  · exact ⟨plain, passed⟩
  · exact ⟨plain, passed⟩
  · constructor
    · exact (config.injector.isClone_inject _ grammars program).trans plain
    · exact (config.injector.gate_inject grammars config program).trans passed

theorem Ran.again {printer rest : Printer} {done later : Precompiled}
    {loads laterLoads : List Load} {outcome : Outcome}
    (policy : config.duplicatePolicy = .replace)
    (first : Ran config filename program printer done loads) (success : done.result = .ok outcome)
    (second : Ran config filename done.program rest later laterLoads)
    (same : ∀ load ∈ loads, ∀ other ∈ laterLoads, other.answer = load.answer) :
    later.program = done.program ∧ later.result = .ok outcome.again := by
  cases first with
  | clone tagged =>
    cases success
    cases second with
    | clone => exact ⟨rfl, rfl⟩
    | gated plain | loaded plain => simp [tagged] at plain
  | gated plain closed =>
    cases success
    cases second with
    | clone tagged => simp [plain] at tagged
    | gated _ other =>
      rw [closed] at other
      cases other
      exact ⟨rfl, rfl⟩
    | loaded _ passed => simp [closed] at passed
  | loaded plain passed key answer =>
    obtain ⟨stillPlain, stillPassed⟩ := settled_keeps_analysis filename plain passed answer
    obtain ⟨laterKey, laterAnswer, programEq, resultEq, loadsEq⟩ :=
      second.of_proceed stillPlain stillPassed
    have answered : laterAnswer = answer := by
      rw [loadsEq] at same
      exact same _ (List.mem_singleton_self _) _ (List.mem_singleton_self _)
    subst answered
    have repeated := settled_again policy (Prod.ext success rfl)
    rw [programEq, resultEq, repeated]
    exact ⟨rfl, rfl⟩

/-- With `replace`, a second run over the result of a first one succeeds, changes nothing, and
reports the same, with every added property now an exchanged one. The runtime may act on any
world in either run, as long as it answers both loads alike. -/
theorem replace_idempotent {σ : Type} (runtime : Runtime (StateM σ)) (config : Config)
    (filename : String) (program after : Program) (outcome : Outcome) (loads : List Load)
    (world later : σ) (policy : config.duplicatePolicy = .replace)
    (first : recordedInPlace runtime config filename program world = ((after, .ok outcome), loads))
    (same : ∀ load ∈ loads, ∀ other ∈ (recordedInPlace runtime config filename after later).2,
      other.answer = load.answer) :
    (recordedInPlace runtime config filename after later).1 = (after, .ok outcome.again) := by
  rw [recordedInPlace_eq] at first same ⊢
  obtain ⟨⟨rfl, success⟩, rfl⟩ := by simpa only [Prod.mk.injEq] using first
  obtain ⟨kept, repeated⟩ := Ran.again policy
    (ran_recorded runtime config filename program .detached world) success
    (ran_recorded runtime config filename _ .detached later) same
  exact Prod.ext kept repeated

theorem replace_idempotent_threeParsers :
    let runtime := Runtime.answering (.ok (some ⟨[("P", .grammar (.bool true)),
      ("Q", .grammar .null), ("R", .grammar .null)]⟩))
    let first := recordedInPlace runtime {} "p.js" threeParsers 0
    first.1.2 = .ok (.transformed ⟨⟨["Parser"]⟩,
      [⟨"P", .injected⟩, ⟨"Q", .replaced⟩, ⟨"R", .skipped .noConstructor⟩]⟩) ∧
    (recordedInPlace runtime {} "p.js" first.1.1 1).1 =
      (first.1.1, .ok (.transformed ⟨⟨["Parser"]⟩,
        [⟨"P", .replaced⟩, ⟨"Q", .replaced⟩, ⟨"R", .skipped .noConstructor⟩]⟩)) := by
  intro runtime first
  have success : first.1.2 = .ok (.transformed ⟨⟨["Parser"]⟩,
      [⟨"P", .injected⟩, ⟨"Q", .replaced⟩, ⟨"R", .skipped .noConstructor⟩]⟩) := rfl
  refine ⟨success, replace_idempotent runtime {} "p.js" threeParsers first.1.1 _ first.2 0 1 rfl
    (Prod.ext (Prod.ext rfl success) rfl) ?_⟩
  intro load member other found
  obtain ⟨_, asked⟩ := exists_world_of_recorded runtime {} "p.js" threeParsers .detached 0 member
  obtain ⟨_, again⟩ := exists_world_of_recorded runtime {} "p.js" first.1.1 .detached 1 found
  exact again.symm.trans asked

end Precompiler

end GrammarEmbed
