import GrammarEmbed.Ast.Basic

namespace GrammarEmbed.Ast

def Ident.made (name : String) : Ident := ⟨.none, name⟩

namespace Expr

def madeIdent (name : String) : Expr := .ident (.made name)

/-- `object.name` -/
def madeMember (object : Expr) (name : String) : Expr :=
  .member .none object (.name (.made name))

def madeObject (properties : List Property) : Expr := .object .none properties

def madeString (value : String) : Expr := .literal (.str ⟨.none, value, none⟩)

def madeUndefined : Expr := madeIdent "undefined"

/-- `JSON.parse("…")`: one flat literal, however deep the value is. -/
def madeJsonParse (json : String) : Expr :=
  .call .none (madeMember (madeIdent "JSON") "parse") [.mk none (madeString json)]

end Expr

/-- `key: value` -/
def Property.made (key : String) (value : Expr) : Property :=
  .keyValue (.name (.made key)) value

/-- `target = value;` -/
def Stmt.madeAssign (target value : Expr) : Stmt :=
  .expr .none (.assign .none .assign (.expr target) value)

/-- `export const name = value;` -/
def Item.madeExportConst (name : String) (value : Expr) : Item :=
  .exportDecl .none (.var (.mk .none .const [.mk .none (.ident (.made name)) (some value)]))

/-- Whether a key spells a name, as an identifier or as a string. -/
def PropertyKey.spells (key : PropertyKey) (name : String) : Bool :=
  match key with
  | .name id => id.name == name
  | .str lit => lit.value == name
  | _ => false

end GrammarEmbed.Ast
