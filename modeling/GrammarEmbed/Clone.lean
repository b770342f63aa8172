import GrammarEmbed.Classes
import GrammarEmbed.Format
import GrammarEmbed.Ast.Build

/-!
Derived clones. A clone is a program that also creates an export map under a key of its own,
behind the directives it starts with, and registers every parser class in that map right after
its declaration. Whoever loads the clone finds the classes in the map.
-/

namespace GrammarEmbed

open Ast

def keyPrefix : String := "__grammar_precompile_parsers_"

def exportKey (unique : String) : String := keyPrefix ++ unique

structure Clone where
  program : Program
  key : String
  format : ModuleFormat
  /-- The registered classes, in source order. -/
  classNames : List String

namespace Clone

/-- A string literal as a statement, as in the directives that a program starts with. -/
def isDirective : Item → Bool
  | .stmt (.expr _ (.literal (.str _))) => true
  | _ => false

def map (format : ModuleFormat) (key : String) : Expr :=
  match format with
  | .esModule => .madeIdent key
  | .commonJs => .madeMember (.madeIdent "exports") key

def creation (format : ModuleFormat) (key : String) : Item :=
  match format with
  | .esModule => .madeExportConst key (.madeObject [])
  | .commonJs => .stmt (.madeAssign (map .commonJs key) (.madeObject []))

def registration (format : ModuleFormat) (key name : String) : Item :=
  .stmt (.madeAssign (.madeMember (map format key) name) (.madeIdent name))

/-- An item, followed by the registration of the parser class it declares. -/
def registered (aliases : Aliases) (format : ModuleFormat) (key : String) (item : Item) :
    List Item :=
  match item.parserName? aliases with
  | some name => [item, registration format key name]
  | none => [item]

/-- The clone of a program, with the given export key. -/
def of (program : Program) (aliases : Aliases) (key : String) : Clone :=
  let format := ModuleFormat.of program
  let directives := program.items.takeWhile isDirective
  let rest := program.items.dropWhile isDirective
  { program :=
      { program with
        items := directives ++ creation format key :: rest.flatMap (registered aliases format key) }
    key
    format
    classNames := rest.filterMap fun item => item.parserName? aliases }

def isKey (name : String) : Bool :=
  keyPrefix.toList.isPrefixOf name.toList

def declaresKey : Declarator → Bool
  | .mk _ (.ident id) _ => isKey id.name
  | _ => false

def createsMap : Item → Bool
  | .exportDecl _ (.var (.mk _ _ declarators)) => declarators.any declaresKey
  | .stmt (.expr _ (.assign _ _ (.expr (.member _ (.ident object) (.name key))) _)) =>
    object.name == "exports" && isKey key.name
  | _ => false

end Clone

/-- Whether a program is a derived clone: its first item behind the directives creates an export
map. -/
def Ast.Program.isClone (program : Program) : Bool :=
  match program.items.find? fun item => !Clone.isDirective item with
  | some item => Clone.createsMap item
  | none => false

end GrammarEmbed
