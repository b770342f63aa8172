import GrammarEmbed.Node
import GrammarEmbed.Proofs.ExtractedGrammars
import GrammarEmbed.Proofs.ReportReading
import Mathlib.Data.List.TakeWhile

namespace GrammarEmbed

open Json (Value)

/-- Nothing is left of a text exactly if it is blank. -/
theorem Text.isEmpty_trim (s : String) :
    (trim s).isEmpty = true ↔ ∀ c ∈ s.toList, isBlank c = true := by
  rw [String.isEmpty_iff, trim, String.ofList_eq_empty_iff, List.reverse_eq_nil_iff,
    List.dropWhile_eq_nil_iff, ← List.dropWhile_eq_nil_iff (l := s.toList)]
  constructor
  · intro blank
    -- what the blanks in front leave would start with something else
    by_cases left : s.toList.dropWhile isBlank = []
    · exact left
    · have first := blank _ (List.mem_reverse.mpr (List.head_mem left))
      rw [List.head_dropWhile_not isBlank left] at first
      cases first
  · intro nothing
    rw [nothing]
    exact nofun

section Extraction

variable (filename : String) (pairs : List (String × Value))

theorem extractGrammars_of_grammars (distinct : (pairs.map Prod.fst).Nodup) :
    extractGrammars filename ⟨grammarClasses pairs⟩ = .ok ⟨pairs⟩ := by
  rw [extractGrammars_eq, ← List.append_nil (grammarClasses pairs), extractInto_grammars,
    Table.foldl_insert {} pairs distinct]
  rfl

theorem extractGrammars_of_failure {name message : String} {failing : ParserClass}
    (failed : failing.describe = .error message) (later : List (String × ParserClass)) :
    extractGrammars filename ⟨grammarClasses pairs ++ (name, failing) :: later⟩ =
      .error (.extraction filename name message) := by
  rw [extractGrammars_eq, extractInto_grammars, extractInto_of_failure failed]

end Extraction

namespace Node

section Loading

variable {m : Type → Type} [Monad m] (store : FileStore m) (host : Host m)
  (executable method : String) (module : CompiledModule)

def started : m (Except IoFault Run) := do
  let directory ← cloneDirectory store module.filename
  host.start ⟨executable, directory, module.code, module.exportKey, module.format, method⟩

def answer (filename : String) : Except IoFault Run → Except Error (Option ParserExports)
  | .error fault => .error (.io fault)
  | .ok run => run.exports filename

/-- Nothing but the run tells about the classes of a module. -/
theorem load_eq [LawfulMonad m] :
    (runtime store host executable method).load module =
      answer module.filename <$> started store host executable method module := by
  simp only [runtime, started, map_eq_pure_bind, bind_assoc]
  apply bind_congr
  intro directory
  apply bind_congr
  intro left
  cases left <;> rfl

end Loading

section Answers

variable {text : String} (stderr : Content) (filename : String)

/-- A run that leaves blanks failed as it said. -/
theorem exports_of_blank (blank : ∀ c ∈ text.toList, Text.isBlank c = true) :
    Run.exports ⟨.text text, stderr⟩ filename =
      .error (.load filename (Text.trim stderr.toTextLossy)) := by
  simp [Run.exports, Content.toText, (Text.isEmpty_trim text).mpr blank]

/-- A run that leaves a report told what the report says. -/
theorem exports_of_writtenAs {report : Report} (writing : report.WrittenAs text)
    (recordable : report.Recordable) :
    Run.exports ⟨.text text, stderr⟩ filename = report.exports filename := by
  have visible : ¬(Text.trim text).isEmpty = true := by
    intro nothing
    obtain ⟨c, member, shown⟩ := writing.exists_not_blank recordable
    rw [(Text.isEmpty_trim text).mp nothing c member] at shown
    cases shown
  have read := Report.parse_of_writtenAs writing recordable
  simp [Run.exports, Content.toText, visible, read]

end Answers

/-- A module is loaded as the document that its run leaves says, whatever else the run says. The
classes of a report with different names come out as the document lists them. If all of them give
grammars, extraction gives these with their names and in that order; otherwise it fails with the
message of the first class that fails. A document that says that there are no classes gives none,
one that says that loading failed gives its message, and a blank one gives what the run said of its
failure. -/
theorem result_document_replayed {σ : Type} (store : FileStore (StateM σ))
    (host : Host (StateM σ)) (executable method : String) (module : CompiledModule) (world : σ)
    (text : String) (stderr : Content)
    (left : (StateT.run (started store host executable method module) world).1 =
      .ok ⟨.text text, stderr⟩) :
    let loaded := (StateT.run ((runtime store host executable method).load module) world).1
    (∀ classes : List (String × ParserClass), (classes.map Prod.fst).Nodup →
      (∀ entry ∈ classes, entry.2.Recordable) → (Report.ok classes).WrittenAs text →
      loaded = .ok (some ⟨classes⟩) ∧
      ∀ filename : String,
        (∀ pairs, classes = grammarClasses pairs →
          extractGrammars filename ⟨classes⟩ = .ok ⟨pairs⟩) ∧
        ∀ pairs name failing message later,
          classes = grammarClasses pairs ++ (name, failing) :: later →
          failing = .constructFails message ∨ failing = .introspectFails message →
          extractGrammars filename ⟨classes⟩ = .error (.extraction filename name message)) ∧
    (Report.missing.WrittenAs text → loaded = .ok none) ∧
    (∀ message, (Report.error message).WrittenAs text →
      loaded = .error (.load module.filename message)) ∧
    ((∀ c ∈ text.toList, Text.isBlank c = true) →
      loaded = .error (.load module.filename (Text.trim stderr.toTextLossy))) := by
  intro loaded
  have told : loaded = Run.exports ⟨.text text, stderr⟩ module.filename := by
    simp only [loaded, load_eq, StateT.run_map]
    exact congrArg (answer module.filename) left
  refine ⟨?_, ?_, ?_, ?_⟩
  · intro classes distinct recordable writing
    have listed : loaded = .ok (some ⟨classes⟩) := by
      rw [told, exports_of_writtenAs stderr _ writing recordable, Report.exports,
        Table.ofList_of_nodup distinct]
    refine ⟨listed, fun filename => ⟨?_, ?_⟩⟩
    · rintro pairs rfl
      apply extractGrammars_of_grammars
      simpa [grammarClasses, Function.comp_def] using distinct
    · rintro pairs name failing message later rfl failed
      have answers : failing.describe = .error message := by
        rcases failed with rfl | rfl <;> rfl
      exact extractGrammars_of_failure filename pairs answers later
  · intro writing
    rw [told, exports_of_writtenAs stderr _ writing trivial, Report.exports]
  · intro message writing
    rw [told, exports_of_writtenAs stderr _ writing trivial, Report.exports]
  · intro blank
    rw [told, exports_of_blank stderr _ blank]

def Host.leaving (run : Run) : Host (StateM FileTree) where
  fresh := pure "0"
  start _ := pure (.ok run)

/-- A document in which most records are turned round, with two classes that fail; and a run that
leaves a blank. -/
theorem result_document_replayed_turned :
    let grammar : Value := .obj [("a", .arr []), ("b", .num (.int 1))]
    let turned : Value := .obj [("b", .num (.int 1)), ("a", .arr [])]
    let classes := [("P", .grammar grammar), ("Q", .introspectFails "boom"),
      ("R", .constructFails "late")]
    let records : List Value := [
      .obj [("grammar", turned), ("name", .str "P")],
      .obj [("error", .obj [("message", .str "boom"), ("phase", .str "introspect")]),
        ("name", .str "Q")],
      Report.classDocument ("R", .constructFails "late")]
    let written : Value := .obj [("parsers", .arr records), ("status", .str "ok")]
    let module : CompiledModule := ⟨"", "p.js", .esModule, "k", ["P", "Q", "R"]⟩
    let load (text : String) :=
      (StateT.run ((runtime FileTree.store (.leaving ⟨.text text, .text " no luck\n"⟩) "node"
        "describe").load module) {}).1
    load written.compact = .ok (some ⟨classes⟩) ∧
      extractGrammars "p.js" ⟨classes⟩ = .error (.extraction "p.js" "Q" "boom") ∧
      load "\n" = .error (.load "p.js" "no luck") := by
  intro grammar turned classes records written module load
  have ordered : grammar.Ordered := by
    refine .obj (by decide) ?_
    simp [Value.Ordered.num, Value.Ordered.arr]
  have fits : grammar.Fits (Json.maxDepth - 3) :=
    Report.fits_two (.arr nofun) (.int (by decide) (by decide))
  have recordable : ∀ entry ∈ classes, entry.2.Recordable := by
    simp [classes, ParserClass.Recordable, ordered, fits]
  have each : ∀ pair ∈ (classes.map Report.classDocument).zip records,
      pair.1.Reordered pair.2 := by
    have turns : grammar.Reordered turned := .swap (.same _) (.same _)
    refine List.forall_mem_cons.mpr ⟨.swap (.same _) turns, ?_⟩
    refine List.forall_mem_cons.mpr ⟨.swap (.same _) (.swap (.same _) (.same _)), ?_⟩
    exact List.forall_mem_cons.mpr ⟨.same _, nofun⟩
  have writing : (Report.ok classes).WrittenAs written.compact :=
    ⟨written, .swap (.same _) (.arr each), .inl rfl⟩
  obtain ⟨replayed, -⟩ := result_document_replayed FileTree.store
    (.leaving ⟨.text written.compact, .text " no luck\n"⟩) "node" "describe" module {} _ _ rfl
  obtain ⟨-, -, -, failed⟩ := result_document_replayed FileTree.store
    (.leaving ⟨.text "\n", .text " no luck\n"⟩) "node" "describe" module {} _ _ rfl
  obtain ⟨listed, extracted⟩ := replayed classes (by decide) recordable writing
  refine ⟨listed, ?_, failed (by simp [Text.isBlank])⟩
  exact (extracted "p.js").2 [("P", grammar)] "Q" _ "boom" _ rfl (.inr rfl)

end Node

end GrammarEmbed
