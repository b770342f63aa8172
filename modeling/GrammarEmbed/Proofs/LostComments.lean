import GrammarEmbed.Proofs.ProgramSlots
import GrammarEmbed.Proofs.Untouched

/-!
The comments of a text run. The clone is printed first and from the same store, so it takes every
comment that the program could print: the text of a modified program comes back without comments.
-/

namespace GrammarEmbed

open Ast

namespace Ast.Program

theorem comments_print (program : Program) (comments : Comments) :
    (program.print comments).2 = comments.beyond program.layout.slots :=
  Writer.comments_run _ _

/-- A program that prints no comment of one store prints none of a larger store either if the
texts are the same: each comment would leave a mark. -/
theorem comments_print_of_same (program : Program) {some all : Comments} (within : some.Within all)
    (clear : (program.print some).2 = some)
    (same : (program.print some).1 = (program.print all).1) : (program.print all).2 = all := by
  rw [comments_print] at clear ⊢
  have more := Writer.marks_run_le program.layout { comments := some } { comments := all }
    within clear
  rw [Writer.comments_run] at more
  have marks : Writer.marks (Writer.run { comments := some } program.layout).written =
      Writer.marks (Writer.run { comments := all } program.layout).written :=
    congrArg Writer.marks same
  exact Comments.beyond_eq_of_size (by simp only at more; omega)

end Ast.Program

namespace Precompiler

variable {config : Config} {filename : String} {program : Program} {comments : Comments}
  {done again : Precompiled} {loads reloads : List Load}

/-- Two runs over one program that get the same answers do the same to it, whatever their clones
are printed with. -/
theorem Ran.agree {answer : Except Error (Option ParserExports)} {printer other : Printer}
    (step : Ran config filename program printer done loads)
    (repeated : Ran config filename program other again reloads)
    (answered : ∀ load ∈ loads, load.answer = answer)
    (reanswered : ∀ load ∈ reloads, load.answer = answer) :
    again.program = done.program ∧ again.result = done.result := by
  cases step with
  | clone tagged => rw [(repeated.of_clone tagged).1]; exact ⟨rfl, rfl⟩
  | gated plain closed =>
    cases repeated with
    | clone tagged =>
      rw [plain] at tagged
      cases tagged
    | gated _ also =>
      rw [closed] at also
      cases also
      exact ⟨rfl, rfl⟩
    | loaded _ passed =>
      rw [closed] at passed
      cases passed
  | loaded plain passed key given =>
    obtain rfl : given = answer := answered _ (List.mem_singleton_self _)
    exact repeated.of_answer plain passed reanswered

theorem exists_injected {report : TransformReport}
    (modified : (Outcome.transformed report).modified = true)
    (kept : ∀ entry ∈ report.injections, entry.outcome ≠ .replaced) :
    ∃ entry ∈ report.injections, entry.outcome = .injected := by
  obtain ⟨entry, reported, changed⟩ : ∃ entry ∈ report.injections, entry.changed = true := by
    simpa [Outcome.modified, TransformReport.injectedCount] using modified
  refine ⟨entry, reported, ?_⟩
  cases outcome : entry.outcome with
  | injected => rfl
  | replaced => exact absurd outcome (kept entry reported)
  | skipped reason => exact absurd outcome (entry.changed_iff.mp changed reason)

/-- The comments that a run leaves over when it changes the program: those that the clone has no
slot for. The changed program has no slot for them either. -/
theorem Ran.comments_of_transformed {report : TransformReport}
    (step : Ran config filename program (.attached comments) done loads)
    (success : done.result = .ok (.transformed report)) :
    ∃ key, let clone := (Clone.of program report.aliases (exportKey key)).program
      done.comments = (clone.print comments).2 ∧
      done.program.layout.slots ⊆ clone.layout.slots ∧
      ((Outcome.transformed report).modified = true →
        (∀ entry ∈ report.injections, entry.outcome ≠ .replaced) →
        clone.layout.slots ⊆ done.program.layout.slots) := by
  cases step with
  | clone | gated => cases success
  | loaded plain passed key answer =>
    obtain ⟨grammars, -, moved, rfl⟩ := settled_transformed success
    refine ⟨key, rfl, ?_, ?_⟩
    · intro slot member
      rw [moved] at member
      exact (Clone.mem_slots_clone program _ _ slot).mpr
        (config.injector.mem_slots_inject _ grammars member)
    · intro modified kept slot member
      rw [moved]
      exact Injector.mem_slots_inject_kept kept (exists_injected modified kept)
        ((Clone.mem_slots_clone program _ _ slot).mp member)

theorem Ran.print_clear {report : TransformReport}
    (step : Ran config filename program (.attached comments) done loads)
    (success : done.result = .ok (.transformed report)) :
    (done.program.print done.comments).2 = done.comments := by
  obtain ⟨key, left, fewer, -⟩ := step.comments_of_transformed success
  rw [Program.comments_print, left, Program.comments_print]
  exact comments.beyond_beyond_of_subset fewer

theorem Ran.within {report : TransformReport}
    (step : Ran config filename program (.attached comments) done loads)
    (success : done.result = .ok (.transformed report)) : done.comments.Within comments := by
  obtain ⟨key, left, -⟩ := step.comments_of_transformed success
  rw [left, Program.comments_print]
  exact comments.within_beyond _

/-- The text without the comments that the clone has taken is the text with them only if the
program would print none. -/
theorem Ran.comments_of_same {report : TransformReport}
    (step : Ran config filename program (.attached comments) done loads)
    (success : done.result = .ok (.transformed report))
    (same : (done.program.print done.comments).1 = (done.program.print comments).1) :
    (done.program.print comments).2 = comments := by
  exact done.program.comments_print_of_same (step.within success) (step.print_clear success) same

theorem Ran.same_of_comments {report : TransformReport}
    (step : Ran config filename program (.attached comments) done loads)
    (success : done.result = .ok (.transformed report))
    (modified : (Outcome.transformed report).modified = true)
    (kept : ∀ entry ∈ report.injections, entry.outcome ≠ .replaced)
    (clear : (done.program.print comments).2 = comments) : done.comments = comments := by
  obtain ⟨key, left, -, more⟩ := step.comments_of_transformed success
  rw [Program.comments_print] at clear left
  have fewer := comments.beyond_beyond_of_subset (more modified kept)
  rw [clear] at fewer
  exact left.trans fewer

/-- What is left over makes no difference to the text if the program prints none of the comments and
asks for none of those that the clone has taken. -/
theorem Ran.same_of_asked {report : TransformReport}
    (step : Ran config filename program (.attached comments) done loads)
    (success : done.result = .ok (.transformed report))
    (asked : ∀ pos ∈ done.program.layout.watched,
      Comments.at_ pos done.comments.leading = Comments.at_ pos comments.leading)
    (clear : (done.program.print comments).2 = comments) :
    (done.program.print done.comments).1 = (done.program.print comments).1 := by
  have within : done.comments.Within comments := step.within success
  rw [Program.comments_print] at clear
  have same := Writer.run_holding (w := { comments := done.comments }) _ within clear asked
  exact (congrArg Writer.written same).symm

section Text

variable {σ : Type} {runtime : Runtime (StateM σ)} {text : String} {world : σ}

def recordedText (runtime : Runtime (StateM σ)) (config : Config) (text filename : String)
    (world : σ) :
    Except Error (String × Outcome) × List Load :=
  (StateT.run (StateT.run (runText runtime.recording config text filename) []) world).1

theorem recordedText_of_parsed {source : Source}
    (parsed : Source.parse text filename = .ok source) :
    recordedText runtime config text filename world =
      let done := recorded runtime config filename source.program (.attached source.comments) world
      (done.1.result.map fun outcome =>
        if outcome.modified then ((done.1.program.print done.1.comments).1, outcome)
        else (text, outcome), done.2) := by
  unfold recordedText runText
  rw [parsed]
  rfl

theorem eq_of_map_modified {result : Except Error Outcome} {changed code : String}
    {outcome : Outcome} (modified : outcome.modified = true)
    (success : (result.map fun outcome =>
      if outcome.modified then (changed, outcome) else (text, outcome)) = .ok (code, outcome)) :
    result = .ok outcome ∧ code = changed := by
  cases result with
  | error error => cases success
  | ok reached =>
    have given : (if reached.modified then (changed, reached) else (text, reached)) =
        (code, outcome) := Except.ok.inj success
    obtain rfl : reached = outcome := by
      split at given <;> exact congrArg Prod.snd given
    rw [if_pos modified] at given
    exact ⟨rfl, (congrArg Prod.fst given).symm⟩

/-- A text that is modified has a program, and what comes back is what the run has made of it. -/
theorem exists_source_of_modified {code : String} {outcome : Outcome}
    (success : (recordedText runtime config text filename world).1 = .ok (code, outcome))
    (modified : outcome.modified = true) :
    ∃ source report, Source.parse text filename = .ok source ∧ outcome = .transformed report ∧
      let done := recorded runtime config filename source.program (.attached source.comments) world
      done.1.result = .ok outcome ∧ code = (done.1.program.print done.1.comments).1 ∧
        (recordedText runtime config text filename world).2 = done.2 := by
  obtain ⟨report, rfl⟩ : ∃ report, outcome = .transformed report := by
    cases outcome with
    | skipped reason => cases modified
    | transformed report => exact ⟨report, rfl⟩
  cases parsed : Source.parse text filename with
  | error error =>
    unfold recordedText runText at success
    rw [parsed] at success
    cases success
  | ok source =>
    rw [recordedText_of_parsed parsed] at success ⊢
    obtain ⟨result, written⟩ := eq_of_map_modified modified success
    exact ⟨source, report, rfl, rfl, result, written, rfl⟩

/-- A text that is modified comes back without comments. It is the text of the program that a run
in place makes, printed with the comments that the clone has left, none of which has a slot there.
So it differs from the text with all comments if that one has any, and otherwise it is the same one:
always if no property was exchanged, and else if the program asks for no comment that the clone has
taken, such as one that went with the exchanged property. -/
theorem text_run_drops_comments (runtime : Runtime (StateM σ)) (config : Config)
    (text filename code : String) (outcome : Outcome) (world : σ)
    (answer : Except Error (Option ParserExports))
    (success : (recordedText runtime config text filename world).1 = .ok (code, outcome))
    (modified : outcome.modified = true)
    (answered : ∀ load ∈ (recordedText runtime config text filename world).2,
      load.answer = answer) :
    ∃ source report key, Source.parse text filename = .ok source ∧ outcome = .transformed report ∧
      let clone := Clone.of source.program report.aliases (exportKey key)
      let left := (clone.program.print source.comments).2
      ∀ later, (∀ load ∈ (recordedInPlace runtime config filename source.program later).2,
          load.answer = answer) →
        let done := (recordedInPlace runtime config filename source.program later).1
        let full := done.1.print source.comments
        done.2 = .ok outcome ∧ code = (done.1.print left).1 ∧ (done.1.print left).2 = left ∧
        (code = full.1 → full.2 = source.comments) ∧
        ((∀ entry ∈ report.injections, entry.outcome ≠ .replaced) →
          full.2 = source.comments → code = full.1) ∧
        ((∀ pos ∈ done.1.layout.watched,
            Comments.at_ pos left.leading = Comments.at_ pos source.comments.leading) →
          full.2 = source.comments → code = full.1) := by
  obtain ⟨source, report, parsed, rfl, result, rfl, loads⟩ :=
    exists_source_of_modified success modified
  have step := ran_recorded runtime config filename source.program (.attached source.comments) world
  obtain ⟨key, left, -⟩ := step.comments_of_transformed result
  refine ⟨source, report, key, parsed, rfl, ?_⟩
  intro clone rest later reanswered done full
  have again := ran_recorded runtime config filename source.program .detached later
  obtain ⟨program, outcome⟩ := step.agree again (loads ▸ answered) reanswered
  have kept : done.1 = (recorded runtime config filename source.program
      (.attached source.comments) world).1.program := program
  have same : full = Program.print _ source.comments := congrArg (Program.print · _) kept
  have remaining : rest = (recorded runtime config filename source.program
      (.attached source.comments) world).1.comments := left.symm
  rw [kept, remaining, same]
  refine ⟨outcome.trans result, rfl, step.print_clear result, step.comments_of_same result, ?_,
    step.same_of_asked result⟩
  intro added clear
  rw [step.same_of_comments result modified added clear]

def commentedParser : String :=
  "import\x7bB\x7dfrom'l'\nclass P extends B\x7bconstructor()\x7bsuper()\x7d\x7d//c"

def nullGrammar : Except Error (Option ParserExports) :=
  .ok (some ⟨[("P", .grammar .null)]⟩)

def commentedRun : Except Error (String × Outcome) × List Load :=
  recordedText (.answering nullGrammar) { library := "l", baseClass := "B" } commentedParser
    "p.js" 0

def commentedRunInPlace (program : Program) : (Program × Except Error Outcome) × List Load :=
  recordedInPlace (.answering nullGrammar) { library := "l", baseClass := "B" } "p.js" program 0

theorem exists_of_any {α ε : Type} {result : Except ε α} {test : α → Bool}
    (passed : result.toOption.any test = true) : ∃ a, result = .ok a ∧ test a = true := by
  cases result with
  | error error => cases passed
  | ok a => exact ⟨a, rfl, passed⟩

theorem commentedRun_modified : ∃ code outcome, commentedRun.1 = .ok (code, outcome) ∧
    outcome.modified = true := by
  have passed : (commentedRun.1.toOption.any fun done => done.2.modified) = true := by
    decide +kernel
  obtain ⟨⟨code, outcome⟩, success, modified⟩ := exists_of_any passed
  exact ⟨code, outcome, success, modified⟩

theorem commentedRunInPlace_prints : ∃ source, Source.parse commentedParser "p.js" = .ok source ∧
    ((commentedRunInPlace source.program).1.1.print source.comments).2.size <
      source.comments.size := by
  have passed : ((Source.parse commentedParser "p.js").toOption.any fun source =>
      decide (((commentedRunInPlace source.program).1.1.print source.comments).2.size <
        source.comments.size)) = true := by
    decide +kernel
  obtain ⟨source, parsed, fewer⟩ := exists_of_any passed
  exact ⟨source, parsed, of_decide_eq_true fewer⟩

theorem answer_of_commentedRun (load : Load) (member : load ∈ commentedRun.2) :
    load.answer = nullGrammar := by
  obtain ⟨source, parsed, -⟩ := commentedRunInPlace_prints
  rw [commentedRun, recordedText_of_parsed parsed] at member
  obtain ⟨_, asked⟩ := exists_world_of_recorded _ _ "p.js" source.program
    (.attached source.comments) 0 member
  exact asked.symm

theorem text_run_drops_comments_commented :
    ∃ source report key left, Source.parse commentedParser "p.js" = .ok source ∧
      left = ((Clone.of source.program report.aliases (exportKey key)).program.print
        source.comments).2 ∧
      let done := (commentedRunInPlace source.program).1
      done.2 = .ok (.transformed report) ∧
      commentedRun.1 = .ok ((done.1.print left).1, .transformed report) ∧
      (done.1.print left).2 = left ∧ (done.1.print left).1 ≠ (done.1.print source.comments).1 := by
  obtain ⟨code, outcome, success, modified⟩ := commentedRun_modified
  obtain ⟨source, report, key, parsed, rfl, differs⟩ := text_run_drops_comments _ _ _ _ code outcome
    0 nullGrammar success modified answer_of_commentedRun
  obtain ⟨result, rfl, clear, same, -⟩ := differs 0 (answer_of_answering nullGrammar _ _ _ _)
  refine ⟨source, report, key, _, parsed, rfl, result, success, clear, ?_⟩
  intro equal
  obtain ⟨_, also, prints⟩ := commentedRunInPlace_prints
  obtain rfl := Except.ok.inj (parsed.symm.trans also)
  exact absurd prints (by rw [commentedRunInPlace, same equal]; exact Nat.lt_irrefl _)

/-- The comment is in the text of the program, but not in the text that comes back. -/
theorem commented_text_differs :
    ∃ source code outcome, Source.parse commentedParser "p.js" = .ok source ∧
      commentedRun.1 = .ok (code, outcome) ∧ outcome.modified = true ∧
      (commentedRunInPlace source.program).1.2 = .ok outcome ∧
      code ≠ ((commentedRunInPlace source.program).1.1.print source.comments).1 := by
  obtain ⟨code, outcome, success, modified⟩ := commentedRun_modified
  obtain ⟨source, report, parsed, rfl, result, rfl, loads⟩ :=
    exists_source_of_modified success modified
  obtain ⟨_, same, prints⟩ := commentedRunInPlace_prints
  obtain rfl := Except.ok.inj (parsed.symm.trans same)
  have step := ran_recorded (.answering nullGrammar) { library := "l", baseClass := "B" } "p.js"
    source.program (.attached source.comments) 0
  have again := ran_recorded (.answering nullGrammar) { library := "l", baseClass := "B" } "p.js"
    source.program .detached 0
  obtain ⟨program, outcome⟩ := step.agree again (loads ▸ answer_of_commentedRun)
    (answer_of_answering nullGrammar _ _ _ _)
  refine ⟨source, _, _, parsed, success, modified, outcome.trans result, ?_⟩
  intro equal
  have kept : (commentedRunInPlace source.program).1.1 = _ := program
  rw [kept] at equal prints
  rw [step.comments_of_same result equal] at prints
  exact Nat.lt_irrefl _ prints

end Text

end Precompiler

end GrammarEmbed
