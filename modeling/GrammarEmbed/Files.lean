import GrammarEmbed.FileTree
import GrammarEmbed.Pipeline

namespace GrammarEmbed

structure Summary where
  processed : Nat := 0
  /-- Files in which a class received a grammar. -/
  transformed : Nat := 0
  errors : List String := []
deriving DecidableEq, Repr, Inhabited

namespace Summary

def merge (first second : Summary) : Summary where
  processed := first.processed + second.processed
  transformed := first.transformed + second.transformed
  errors := first.errors ++ second.errors

def success (summary : Summary) : Bool :=
  summary.errors.isEmpty

def ofOutcome (outcome : Outcome) : Summary where
  processed := 1
  transformed := if outcome.modified then 1 else 0

def ofError (path : String) (error : Error) : Summary where
  processed := 1
  errors := ["Error processing " ++ path ++ ": " ++ error.message]

end Summary

/-- The names of directories into which installed packages go. -/
def packageDirectory : String := "node_modules"

/-- Runs over files, with all that they need. -/
structure FilePrecompiler (m : Type → Type) where
  store : FileStore m
  runtime : Runtime m
  config : Config
  extensions : List String := ["js", "mjs", "cjs"]

namespace FilePrecompiler

variable {m : Type → Type} [Monad m]

/-- A step on files whose failure ends the run. -/
def orFail {α : Type} (step : m (Except IoFault α)) : ExceptT Error m α := do
  match ← (step : ExceptT Error m (Except IoFault α)) with
  | .ok value => return value
  | .error fault => throw (.io fault)

/-- Reads and transforms a file; nothing is written. -/
def precompileFile (files : FilePrecompiler m) (source : String) :
    ExceptT Error m (String × Outcome) := do
  let text ← orFail (files.store.read source)
  ExceptT.mk (Precompiler.runText files.runtime files.config text source)

def transformFile (files : FilePrecompiler m) (source output : String) :
    ExceptT Error m Summary := do
  let (code, outcome) ← files.precompileFile source
  if let some parent := Path.parent? output then
    orFail (files.store.createDirectories parent)
  orFail (files.store.write output code)
  return .ofOutcome outcome

def isSource (extensions : List String) (name : String) : Bool :=
  match Path.extension? name with
  | none => false
  | some extension =>
    extensions.any fun e => Text.lowerCase e == Text.lowerCase extension

/-- A file of a directory run: its failure goes into the summary. -/
def transformInto (files : FilePrecompiler m) (source output : String) : m Summary := do
  match ← (files.transformFile source output).run with
  | .ok summary => return summary
  | .error error => return .ofError source error

/-- Transforms what stands under one name of a directory, given how to go `deeper`. The output
directory itself, at `root`, is not entered. -/
def transformName (files : FilePrecompiler m) (output : String) (root : List String)
    (deeper : String → String → Summary → ExceptT Error m Summary) (directory below : String)
    (summary : Summary) (name : String) : ExceptT Error m Summary := do
  let path := Path.join directory name
  let below := Path.join below name
  if Path.isHidden name then return summary
  else if ← (files.store.isDirectory path : ExceptT Error m Bool) then
    let place ← (files.store.resolve path : ExceptT Error m (Except IoFault (List String)))
    let isOutput := match place with
      | .ok place => place == root
      | .error _ => false
    if isOutput || name == packageDirectory then return summary
    else deeper path below summary
  else if isSource files.extensions name then
    return summary.merge (← files.transformInto path (Path.join output below))
  else return summary

/-- Transforms the files of a directory `below` the source directory. -/
def transformBelow (files : FilePrecompiler m) (output : String) (root : List String) :
    Nat → String → String → Summary → ExceptT Error m Summary
  | 0, _, _, summary => return summary
  | levels + 1, directory, below, summary => do
    let names ← orFail (files.store.list directory)
    names.foldlM
      (files.transformName output root (files.transformBelow output root levels) directory below)
      summary

/-- Transforms every source below a directory into the same place below another. -/
def transformDirectory (files : FilePrecompiler m) (source output : String) :
    ExceptT Error m Summary := do
  if !(← (files.store.isDirectory source : ExceptT Error m Bool)) then
    throw (.io (.noSourceDirectory source))
  orFail (files.store.createDirectories output)
  let root ← orFail (files.store.resolve output)
  let levels ← (files.store.levels : ExceptT Error m Nat)
  files.transformBelow output root levels source "" {}

end FilePrecompiler

end GrammarEmbed
