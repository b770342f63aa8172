import GrammarEmbed.Clone
import GrammarEmbed.Gate
import GrammarEmbed.Injection
import GrammarEmbed.Source

/-!
One file from end to end: gate, clone, load, extract, inject. Every early exit leaves the program
as it was, and a failure of the runtime comes before anything is injected.
-/

namespace GrammarEmbed

open Ast

structure CompiledModule where
  code : String
  filename : String
  format : ModuleFormat
  exportKey : String
  classNames : List String
deriving Repr

/-- Where modules are run: it makes up the unique part of export keys, and it loads a module and
hands back the classes in its export map. -/
structure Runtime (m : Type → Type) where
  fresh : m String
  load : CompiledModule → m (Except Error (Option ParserExports))

structure TransformReport where
  aliases : Aliases
  /-- One entry for every parser class, in source order. -/
  injections : List ClassInjection
deriving Repr

def TransformReport.injectedCount (report : TransformReport) : Nat :=
  report.injections.countP ClassInjection.changed

/-- What was done to a file. -/
inductive Outcome where
  | skipped (reason : SkipReason)
  | transformed (report : TransformReport)
deriving Repr

def Outcome.modified : Outcome → Bool
  | .skipped _ => false
  | .transformed report => 0 < report.injectedCount

def Config.injector (config : Config) : Injector :=
  ⟨config.grammarProperty, config.duplicatePolicy⟩

/-- What a clone is printed with: the comments of its source, or nothing, where the source is not
known. -/
inductive Printer where
  | attached (comments : Comments)
  | detached

namespace Printer

def comments : Printer → Comments
  | .attached comments => comments
  | .detached => {}

def print (program : Program) : Printer → String × Comments
  | .attached comments => program.print comments
  | .detached => (program.printDetached, {})

end Printer

/-- A program after a run, the comments that were not printed with its clone, and what was done.
A run that fails leaves a program behind, too. -/
structure Precompiled where
  program : Program
  comments : Comments
  result : Except Error Outcome

namespace Precompiler

/-- The grammars of the loaded classes, or none if there are no classes. -/
def loadedGrammars (filename : String) (loaded : Except Error (Option ParserExports)) :
    Except Error (Option Grammars) := do
  match ← loaded with
  | none => return none
  | some exports =>
    if exports.isEmpty then return none
    return some (← extractGrammars filename exports)

/-- What the loaded classes do to the program, in place: a failure keeps what was done before
it. -/
def finish (config : Config) (filename : String) (aliases : Aliases)
    (loaded : Except Error (Option ParserExports)) : ExceptT Error (StateM Program) Outcome := do
  match ← loadedGrammars filename loaded with
  | none => return .skipped .noExports
  | some grammars =>
    let injections ← modifyGet fun program =>
      (config.injector.inject aliases grammars program).swap
    return .transformed ⟨aliases, injections⟩

def compile (clone : Clone) (filename : String) (printer : Printer) :
    CompiledModule × Comments :=
  let (code, rest) := printer.print clone.program
  (⟨code, filename, clone.format, clone.key, clone.classNames⟩, rest)

/-- Runs a program through all steps. The clone takes the comments of the printer along. -/
def run {m : Type → Type} [Monad m] (runtime : Runtime m) (config : Config) (filename : String)
    (program : Program) (printer : Printer) : m Precompiled := do
  if program.isClone then
    return ⟨program, printer.comments, .ok (.skipped .derivedClone)⟩
  match config.gate program with
  | .skip reason => return ⟨program, printer.comments, .ok (.skipped reason)⟩
  | .proceed aliases _ =>
    let key := exportKey (← runtime.fresh)
    let (compiled, rest) := compile (Clone.of program aliases key) filename printer
    let loaded ← runtime.load compiled
    let (result, program) := StateT.run (finish config filename aliases loaded).run program
    return ⟨program, rest, result⟩

/-- Runs a program whose comments stay with it: the clone is printed without any. The program
comes back also when the run fails. -/
def runInPlace {m : Type → Type} [Monad m] (runtime : Runtime m) (config : Config)
    (filename : String) (program : Program) : m (Program × Except Error Outcome) := do
  let done ← run runtime config filename program .detached
  return (done.program, done.result)

/-- Runs a program and hands it back if nothing failed. -/
def runProgram {m : Type → Type} [Monad m] (runtime : Runtime m) (config : Config)
    (filename : String) (program : Program) : m (Except Error (Program × Outcome)) := do
  let (program, result) ← runInPlace runtime config filename program
  return result.map fun outcome => (program, outcome)

/-- Reads, transforms and prints a file. A file in which no class received a grammar comes back
as it was. -/
def runText {m : Type → Type} [Monad m] (runtime : Runtime m) (config : Config)
    (text filename : String) : m (Except Error (String × Outcome)) := do
  match Source.parse text filename with
  | .error error => return .error error
  | .ok source =>
    let done ← run runtime config filename source.program (.attached source.comments)
    return done.result.map fun outcome =>
      if outcome.modified then ((done.program.print done.comments).1, outcome) else (text, outcome)

end Precompiler

end GrammarEmbed
