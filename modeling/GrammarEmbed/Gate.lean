import GrammarEmbed.Bindings
import GrammarEmbed.Classes
import GrammarEmbed.Config

namespace GrammarEmbed

open Ast

/-- Why a file is passed through unchanged. -/
inductive SkipReason where
  | noLibraryImport
  | noParserClasses
  | derivedClone
  | noExports
deriving DecidableEq, Repr, Inhabited

def SkipReason.message : SkipReason → String
  | .noLibraryImport => "grammar library not imported"
  | .noParserClasses => "no Parser class inheritance"
  | .derivedClone => "derived clone"
  | .noExports => "no parsers found"

inductive GateDecision where
  | skip (reason : SkipReason)
  | proceed (aliases : Aliases) (classNames : List String)
deriving DecidableEq, Repr

def Config.base (config : Config) : BaseClass := ⟨config.library, config.baseClass⟩

/-- The local names of the base class and the classes that extend it, unless there are none. -/
def Config.gate (config : Config) (program : Program) : GateDecision :=
  let aliases := config.base.aliases program
  if aliases.isEmpty then .skip .noLibraryImport
  else
    let names := (program.parserClasses aliases).map fun found => found.name.name
    if names.isEmpty then .skip .noParserClasses else .proceed aliases names

end GrammarEmbed
