import GrammarEmbed.FileTree
import GrammarEmbed.Pipeline
import GrammarEmbed.Report

namespace GrammarEmbed.Node

/-- Where a clone is put while it is loaded. -/
inductive CloneDirectory where
  | beside (path : String)
  | temporary
deriving DecidableEq, Repr

structure Invocation where
  executable : String
  directory : CloneDirectory
  code : String
  exportKey : String
  format : ModuleFormat
  method : String
deriving Repr

/-- What a run of the executable leaves: a result document and what it said of its failure. -/
structure Run where
  document : Content
  stderr : Content
deriving Repr

def formatName : ModuleFormat → String
  | .esModule => "esm"
  | .commonJs => "cjs"

/-- The clone stands beside its source, so that it finds the packages that its source finds; it
goes to the temporary directory if its source stands nowhere. -/
def cloneDirectory {m : Type → Type} [Monad m] (store : FileStore m) (filename : String) :
    m CloneDirectory := do
  match Path.parent? filename with
  | none => return .temporary
  | some parent =>
    if parent.isEmpty then return .beside "."
    else if ← store.isDirectory parent then return .beside parent
    else return .temporary

/-- What a run tells about the classes of a module. A run that left no document failed as it
said. -/
def Run.exports (run : Run) (filename : String) : Except Error (Option ParserExports) :=
  match run.document.toText with
  | .error fault => .error (.io fault)
  | .ok document =>
    if (Text.trim document).isEmpty then .error (.load filename (Text.trim run.stderr.toTextLossy))
    else
      match Report.parse document with
      | .error error => .error (.json error)
      | .ok report => report.exports filename

/-- What it takes to start the executable. -/
structure Host (m : Type → Type) where
  fresh : m String
  start : Invocation → m (Except IoFault Run)

def runtime {m : Type → Type} [Monad m] (store : FileStore m) (host : Host m)
    (executable method : String) : Runtime m where
  fresh := host.fresh
  load module := do
    let directory ← cloneDirectory store module.filename
    match ← host.start
        ⟨executable, directory, module.code, module.exportKey, module.format, method⟩ with
    | .error fault => return .error (.io fault)
    | .ok run => return run.exports module.filename

end GrammarEmbed.Node
