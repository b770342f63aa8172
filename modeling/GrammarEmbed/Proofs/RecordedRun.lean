import GrammarEmbed.Pipeline

/-!
Runs with a record of what was loaded. A runtime acts on a world of its own, so nothing is assumed
about its answers. `Ran` says once what a run can do.
-/

namespace GrammarEmbed

open Ast

structure Load where
  compiled : CompiledModule
  answer : Except Error (Option ParserExports)

/-- The same runtime with a record of every load. -/
def Runtime.recording {m : Type → Type} [Monad m] (runtime : Runtime m) :
    Runtime (StateT (List Load) m) where
  fresh := StateT.lift runtime.fresh
  load compiled := do
    let answer ← StateT.lift (runtime.load compiled)
    modify fun loads => loads ++ [⟨compiled, answer⟩]
    return answer

namespace Precompiler

variable {σ : Type} (runtime : Runtime (StateM σ)) (config : Config) (filename : String)
  (program : Program) (printer : Printer) (world : σ)

/-- What the answer to a load leads to, and the program it leaves. -/
def settled (aliases : Aliases) (loaded : Except Error (Option ParserExports)) :
    Except Error Outcome × Program :=
  StateT.run (finish config filename aliases loaded).run program

/-- The program is touched in one case only, and then by injection alone. -/
theorem settled_eq (aliases : Aliases) (loaded : Except Error (Option ParserExports)) :
    settled config filename program aliases loaded =
      match loadedGrammars filename loaded with
      | .error error => (.error error, program)
      | .ok none => (.ok (.skipped .noExports), program)
      | .ok (some grammars) =>
        let after := config.injector.inject aliases grammars program
        (.ok (.transformed ⟨aliases, after.2⟩), after.1) := by
  rw [settled, finish]
  rcases loadedGrammars filename loaded with error | _ | grammars <;> rfl

variable {config filename program} in
theorem settled_transformed {aliases : Aliases} {loaded : Except Error (Option ParserExports)}
    {report : TransformReport}
    (success : (settled config filename program aliases loaded).1 = .ok (.transformed report)) :
    ∃ grammars, loadedGrammars filename loaded = .ok (some grammars) ∧
      (settled config filename program aliases loaded).2 =
        (config.injector.inject aliases grammars program).1 ∧
      report = ⟨aliases, (config.injector.inject aliases grammars program).2⟩ := by
  rw [settled_eq] at success ⊢
  generalize loadedGrammars filename loaded = obtained at success ⊢
  rcases obtained with error | _ | grammars
  · cases success
  · cases success
  · cases success
    exact ⟨grammars, rfl, rfl, rfl⟩

/-- What a run does, case by case, with the loads it makes. -/
inductive Ran (config : Config) (filename : String) (program : Program) (printer : Printer) :
    Precompiled → List Load → Prop where
  | clone (tagged : program.isClone = true) :
      Ran config filename program printer
        ⟨program, printer.comments, .ok (.skipped .derivedClone)⟩ []
  | gated {reason : SkipReason} (plain : program.isClone = false)
      (closed : config.gate program = .skip reason) :
      Ran config filename program printer ⟨program, printer.comments, .ok (.skipped reason)⟩ []
  | loaded {aliases : Aliases} {names : List String} (plain : program.isClone = false)
      (passed : config.gate program = .proceed aliases names) (key : String)
      (answer : Except Error (Option ParserExports)) :
      Ran config filename program printer
        ⟨(settled config filename program aliases answer).2,
          (compile (Clone.of program aliases (exportKey key)) filename printer).2,
          (settled config filename program aliases answer).1⟩
        [⟨(compile (Clone.of program aliases (exportKey key)) filename printer).1, answer⟩]

variable {config filename program printer} {done : Precompiled} {loads : List Load}

theorem Ran.of_proceed {aliases : Aliases} {names : List String}
    (step : Ran config filename program printer done loads) (plain : program.isClone = false)
    (passed : config.gate program = .proceed aliases names) :
    ∃ key answer,
      done.program = (settled config filename program aliases answer).2 ∧
      done.result = (settled config filename program aliases answer).1 ∧
      loads =
        [⟨(compile (Clone.of program aliases (exportKey key)) filename printer).1, answer⟩] := by
  cases step with
  | clone tagged =>
    rw [plain] at tagged
    cases tagged
  | gated _ closed =>
    rw [passed] at closed
    cases closed
  | loaded _ other key answer =>
    rw [passed] at other
    cases other
    exact ⟨key, answer, rfl, rfl, rfl⟩

/-- A program that passes the gate is settled by the answer to its load. -/
theorem Ran.of_answer {aliases : Aliases} {names : List String}
    {answer : Except Error (Option ParserExports)}
    (step : Ran config filename program printer done loads) (plain : program.isClone = false)
    (passed : config.gate program = .proceed aliases names)
    (answered : ∀ load ∈ loads, load.answer = answer) :
    done.program = (settled config filename program aliases answer).2 ∧
      done.result = (settled config filename program aliases answer).1 := by
  obtain ⟨key, given, programEq, resultEq, rfl⟩ := step.of_proceed plain passed
  obtain rfl : given = answer := answered _ (List.mem_singleton_self _)
  exact ⟨programEq, resultEq⟩

theorem Ran.of_clone (step : Ran config filename program printer done loads)
    (tagged : program.isClone = true) :
    done = ⟨program, printer.comments, .ok (.skipped .derivedClone)⟩ ∧ loads = [] := by
  cases step with
  | clone => exact ⟨rfl, rfl⟩
  | gated plain | loaded plain =>
    rw [plain] at tagged
    cases tagged

variable (config filename program printer)

def recorded : Precompiled × List Load :=
  (StateT.run (StateT.run (run runtime.recording config filename program printer) []) world).1

theorem ran_recorded :
    Ran config filename program printer
      (recorded runtime config filename program printer world).1
      (recorded runtime config filename program printer world).2 := by
  unfold recorded run
  cases tagged : program.isClone with
  | true => exact .clone tagged
  | false =>
    cases gate : config.gate program with
    | skip reason => exact .gated tagged gate
    | proceed aliases names => exact .loaded tagged gate (runtime.fresh world).1 _

/-- Keeping the record changes nothing else. -/
theorem recorded_run :
    (recorded runtime config filename program printer world).1 =
      (StateT.run (run runtime config filename program printer) world).1 := by
  unfold recorded run
  cases program.isClone with
  | true => rfl
  | false => cases config.gate program <;> rfl

/-- Every answer in the record is one that the runtime gave for that module, in some world. -/
theorem exists_world_of_recorded {load : Load}
    (member : load ∈ (recorded runtime config filename program printer world).2) :
    ∃ asked, (StateT.run (runtime.load load.compiled) asked).1 = load.answer := by
  unfold recorded run at member
  cases tagged : program.isClone with
  | true =>
    simp only [tagged] at member
    cases member
  | false =>
    simp only [tagged] at member
    cases gate : config.gate program with
    | skip reason =>
      simp only [gate] at member
      cases member
    | proceed aliases names =>
      simp only [gate] at member
      rw [List.mem_singleton.mp member]
      exact ⟨_, rfl⟩

def recordedInPlace : (Program × Except Error Outcome) × List Load :=
  (StateT.run (StateT.run (runInPlace runtime.recording config filename program) []) world).1

theorem recordedInPlace_eq :
    recordedInPlace runtime config filename program world =
      (((recorded runtime config filename program .detached world).1.program,
        (recorded runtime config filename program .detached world).1.result),
        (recorded runtime config filename program .detached world).2) :=
  rfl

theorem recordedInPlace_run :
    (recordedInPlace runtime config filename program world).1 =
      (StateT.run (runInPlace runtime config filename program) world).1 := by
  rw [recordedInPlace_eq, recorded_run]
  rfl

end Precompiler

/-- A runtime that makes up its keys by counting and answers every load alike. -/
def Runtime.answering (answer : Except Error (Option ParserExports)) : Runtime (StateM Nat) where
  fresh := modifyGet fun count => (toString count, count + 1)
  load _ := pure answer

theorem Precompiler.answer_of_answering (answer : Except Error (Option ParserExports))
    (config : Config) (filename : String) (program : Program) (world : Nat) (load : Load)
    (member : load ∈ (recordedInPlace (.answering answer) config filename program world).2) :
    load.answer = answer := by
  rw [recordedInPlace_eq] at member
  obtain ⟨_, asked⟩ := exists_world_of_recorded _ config filename program .detached world member
  exact asked.symm

end GrammarEmbed
