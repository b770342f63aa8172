import GrammarEmbed.Ast.Basic

namespace GrammarEmbed

open Ast

inductive ModuleFormat where
  /-- The program declares imports or exports: `export const KEY = …` -/
  | esModule
  /-- Any other program: `exports.KEY = …` -/
  | commonJs
deriving DecidableEq, Repr, Inhabited

namespace ModuleFormat

def declaresModule : Item → Bool
  | .stmt _ => false
  | _ => true

def of (program : Program) : ModuleFormat :=
  match program.kind with
  | .module => if program.items.any declaresModule then .esModule else .commonJs
  | .script => .commonJs

/-- The file extension by which a loader knows the format. -/
def extension : ModuleFormat → String
  | .esModule => "mjs"
  | .commonJs => "cjs"

end ModuleFormat

end GrammarEmbed
