import GrammarEmbed.Aliases
import GrammarEmbed.Ast.Build

namespace GrammarEmbed

open Ast

/-- A class of a library that parsers extend. -/
structure BaseClass where
  library : String
  name : String
deriving DecidableEq, Repr

namespace BaseClass

def importedName (local_ : Ident) : Option ModuleName → String
  | some (.ident id) => id.name
  | some (.str lit) => lit.value
  | none => local_.name

/-- A named import binds the class itself; the others bind an object whose member it is. -/
def addSpecifier (base : BaseClass) (aliases : Aliases) : ImportSpecifier → Aliases
  | .named _ local_ imported =>
    if importedName local_ imported == base.name then aliases.insert local_.name else aliases
  | .default local_ => aliases.insertMember local_.name base.name
  | .namespace _ local_ => aliases.insertMember local_.name base.name

/-- `require("library")`, with or without further arguments. -/
def isRequire (base : BaseClass) : Expr → Bool
  | .call _ (.ident callee) (.mk none (.literal (.str lit)) :: _) =>
    callee.name == "require" && lit.value == base.library
  | _ => false

/-- The name that a property of an object pattern gives to the class. -/
def destructured? (base : BaseClass) : PatternProperty → Option String
  | .shorthand _ key _ => if key.name == base.name then some key.name else none
  | .keyValue key value =>
    if key.spells base.name then
      match value with
      | .ident id => some id.name
      | .assign _ (.ident id) _ => some id.name
      | _ => none
    else none
  | .rest .. => none

def addDeclarator (base : BaseClass) (aliases : Aliases) : Declarator → Aliases
  | .mk _ target (some value) =>
    if base.isRequire value then
      match target with
      | .ident id => aliases.insertMember id.name base.name
      | .object _ properties =>
        (properties.filterMap base.destructured?).foldl Aliases.insert aliases
      | _ => aliases
    else aliases
  | .mk _ _ none => aliases

def addVar (base : BaseClass) (aliases : Aliases) : VarDecl → Aliases
  | .mk _ _ declarators => declarators.foldl base.addDeclarator aliases

def addItem (base : BaseClass) (aliases : Aliases) : Item → Aliases
  | .importDecl _ _ specifiers source =>
    if source.value == base.library then specifiers.foldl base.addSpecifier aliases else aliases
  | .exportDecl _ (.var var) => base.addVar aliases var
  | .stmt (.decl (.var var)) => base.addVar aliases var
  | _ => aliases

/-- All local names of the class, in the order in which the program introduces them. -/
def aliases (base : BaseClass) (program : Program) : Aliases :=
  program.items.foldl base.addItem {}

end BaseClass

end GrammarEmbed
