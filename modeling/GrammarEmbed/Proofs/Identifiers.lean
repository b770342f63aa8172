import GrammarEmbed.Ast.Basic

namespace GrammarEmbed.Ast

def nameIdentifiers : Option Ident → List String
  | none => []
  | some id => [id.name]

mutual

def Expr.identifiers : Expr → List String
  | .this _ => []
  | .ident id => [id.name]
  | .literal _ => []
  | .privateName .. => []
  | .array _ elements => elementIdentifiers elements
  | .object _ properties => propertyIdentifiers properties
  | .function name fn => nameIdentifiers name ++ fn.identifiers
  | .arrow _ _ params body => patternIdentifiers params ++ body.identifiers
  | .classExpr name cls => nameIdentifiers name ++ cls.identifiers
  | .unary _ _ operand => operand.identifiers
  | .update _ _ _ operand => operand.identifiers
  | .binary _ _ left right => left.identifiers ++ right.identifiers
  | .assign _ _ target value => target.identifiers ++ value.identifiers
  | .member _ object key => object.identifiers ++ key.identifiers
  | .superMember _ _ key => key.identifiers
  | .conditional _ test consequent alternate =>
    test.identifiers ++ consequent.identifiers ++ alternate.identifiers
  | .call _ callee args => callee.identifiers ++ argumentIdentifiers args
  | .superCall _ _ args => argumentIdentifiers args
  | .importCall _ _ _ args => argumentIdentifiers args
  | .new _ callee _ args => callee.identifiers ++ argumentIdentifiers args
  | .sequence _ exprs => exprIdentifiers exprs
  | .template _ _ exprs => exprIdentifiers exprs
  | .taggedTemplate _ tag _ _ exprs => tag.identifiers ++ exprIdentifiers exprs
  | .yield _ _ operand => optionalIdentifiers operand
  | .await _ operand => operand.identifiers
  | .paren _ inner => inner.identifiers
  | .metaProperty .. => []
  | .optionalMember _ _ object key => object.identifiers ++ key.identifiers
  | .optionalCall _ _ callee args => callee.identifiers ++ argumentIdentifiers args

def optionalIdentifiers : Option Expr → List String
  | none => []
  | some expr => expr.identifiers

def exprIdentifiers : List Expr → List String
  | [] => []
  | expr :: rest => expr.identifiers ++ exprIdentifiers rest

def elementIdentifiers : List Element → List String
  | [] => []
  | .hole :: rest => elementIdentifiers rest
  | .item arg :: rest => arg.identifiers ++ elementIdentifiers rest

def Argument.identifiers : Argument → List String
  | .mk _ value => value.identifiers

def argumentIdentifiers : List Argument → List String
  | [] => []
  | arg :: rest => arg.identifiers ++ argumentIdentifiers rest

def MemberKey.identifiers : MemberKey → List String
  | .name id => [id.name]
  | .privateName .. => []
  | .computed _ index => index.identifiers

def ArrowBody.identifiers : ArrowBody → List String
  | .block body => body.identifiers
  | .expr body => body.identifiers

def PropertyKey.identifiers : PropertyKey → List String
  | .name id => [id.name]
  | .str _ => []
  | .num .. => []
  | .bigint .. => []
  | .computed _ index => index.identifiers
  | .privateName .. => []

def Property.identifiers : Property → List String
  | .shorthand id => [id.name]
  | .keyValue key value => key.identifiers ++ value.identifiers
  | .initialized _ id value => id.name :: value.identifiers
  | .getter _ key body => key.identifiers ++ body.identifiers
  | .setter _ key param body => key.identifiers ++ param.identifiers ++ body.identifiers
  | .method key fn => key.identifiers ++ fn.identifiers
  | .spread _ value => value.identifiers

def propertyIdentifiers : List Property → List String
  | [] => []
  | property :: rest => property.identifiers ++ propertyIdentifiers rest

def Pattern.identifiers : Pattern → List String
  | .ident id => [id.name]
  | .array _ elements => elementPatternIdentifiers elements
  | .object _ properties => patternPropertyIdentifiers properties
  | .rest _ inner => inner.identifiers
  | .assign _ left right => left.identifiers ++ right.identifiers
  | .expr target => target.identifiers

def patternIdentifiers : List Pattern → List String
  | [] => []
  | pattern :: rest => pattern.identifiers ++ patternIdentifiers rest

def elementPatternIdentifiers : List (Option Pattern) → List String
  | [] => []
  | none :: rest => elementPatternIdentifiers rest
  | some pattern :: rest => pattern.identifiers ++ elementPatternIdentifiers rest

def PatternProperty.identifiers : PatternProperty → List String
  | .keyValue key value => key.identifiers ++ value.identifiers
  | .shorthand _ id fallback => id.name :: optionalIdentifiers fallback
  | .rest _ inner => inner.identifiers

def patternPropertyIdentifiers : List PatternProperty → List String
  | [] => []
  | property :: rest => property.identifiers ++ patternPropertyIdentifiers rest

def Func.identifiers : Func → List String
  | .mk _ params body _ _ => patternIdentifiers params ++ body.identifiers

def Block.identifiers : Block → List String
  | .mk _ stmts => stmtIdentifiers stmts

def optionalBlockIdentifiers : Option Block → List String
  | none => []
  | some body => body.identifiers

def ClassDef.identifiers : ClassDef → List String
  | .mk _ superclass members => optionalIdentifiers superclass ++ memberIdentifiers members

def ClassMember.identifiers : ClassMember → List String
  | .constructor _ key params body =>
    key.identifiers ++ patternIdentifiers params ++ optionalBlockIdentifiers body
  | .method _ _ _ key fn => key.identifiers ++ fn.identifiers
  | .field _ _ key value => key.identifiers ++ optionalIdentifiers value
  | .staticBlock _ body => body.identifiers
  | .empty _ => []

def memberIdentifiers : List ClassMember → List String
  | [] => []
  | member :: rest => member.identifiers ++ memberIdentifiers rest

def Declarator.identifiers : Declarator → List String
  | .mk _ target init => target.identifiers ++ optionalIdentifiers init

def declaratorIdentifiers : List Declarator → List String
  | [] => []
  | declarator :: rest => declarator.identifiers ++ declaratorIdentifiers rest

def VarDecl.identifiers : VarDecl → List String
  | .mk _ _ declarators => declaratorIdentifiers declarators

def Decl.identifiers : Decl → List String
  | .var decl => decl.identifiers
  | .function name fn => name.name :: fn.identifiers
  | .class name cls => name.name :: cls.identifiers

def ForHead.identifiers : ForHead → List String
  | .none => []
  | .decl decl => decl.identifiers
  | .pattern target => target.identifiers

def CatchClause.identifiers : CatchClause → List String
  | .mk _ none body => body.identifiers
  | .mk _ (some param) body => param.identifiers ++ body.identifiers

def handlerIdentifiers : Option CatchClause → List String
  | none => []
  | some clause => clause.identifiers

def SwitchCase.identifiers : SwitchCase → List String
  | .mk _ test body => optionalIdentifiers test ++ stmtIdentifiers body

def caseIdentifiers : List SwitchCase → List String
  | [] => []
  | case :: rest => case.identifiers ++ caseIdentifiers rest

def Stmt.identifiers : Stmt → List String
  | .block body => body.identifiers
  | .empty _ => []
  | .expr _ value => value.identifiers
  | .decl decl => decl.identifiers
  | .ifElse _ test consequent none => test.identifiers ++ consequent.identifiers
  | .ifElse _ test consequent (some alternate) =>
    test.identifiers ++ consequent.identifiers ++ alternate.identifiers
  | .for _ init test update body =>
    init.identifiers ++ optionalIdentifiers test ++ optionalIdentifiers update ++
      body.identifiers
  | .forIn _ head object body => head.identifiers ++ object.identifiers ++ body.identifiers
  | .forOf _ _ head iterable body => head.identifiers ++ iterable.identifiers ++ body.identifiers
  | .while _ test body => test.identifiers ++ body.identifiers
  | .doWhile _ body test => body.identifiers ++ test.identifiers
  | .return _ value => optionalIdentifiers value
  | .break _ label => nameIdentifiers label
  | .continue _ label => nameIdentifiers label
  | .throw _ value => value.identifiers
  | .try _ body handler finalizer =>
    body.identifiers ++ handlerIdentifiers handler ++ optionalBlockIdentifiers finalizer
  | .switch _ discriminant cases => discriminant.identifiers ++ caseIdentifiers cases
  | .labeled _ label body => label.name :: body.identifiers
  | .with _ object body => object.identifiers ++ body.identifiers
  | .debugger _ => []

def stmtIdentifiers : List Stmt → List String
  | [] => []
  | stmt :: rest => stmt.identifiers ++ stmtIdentifiers rest

end

def ModuleName.identifiers : ModuleName → List String
  | .ident id => [id.name]
  | .str _ => []

def ImportSpecifier.identifiers : ImportSpecifier → List String
  | .default local_ => [local_.name]
  | .namespace _ local_ => [local_.name]
  | .named _ local_ none => [local_.name]
  | .named _ local_ (some imported) => local_.name :: imported.identifiers

def ExportSpecifier.identifiers : ExportSpecifier → List String
  | .namespace _ name => name.identifiers
  | .named _ local_ none => local_.identifiers
  | .named _ local_ (some exported) => local_.identifiers ++ exported.identifiers

def Item.identifiers : Item → List String
  | .stmt s => s.identifiers
  | .importDecl _ _ specifiers _ => specifiers.flatMap ImportSpecifier.identifiers
  | .exportDecl _ decl => decl.identifiers
  | .exportNamed _ specifiers _ => specifiers.flatMap ExportSpecifier.identifiers
  | .exportAll .. => []
  | .exportDefaultFunction _ name fn => nameIdentifiers name ++ fn.identifiers
  | .exportDefaultClass _ name cls => nameIdentifiers name ++ cls.identifiers
  | .exportDefaultExpr _ value => value.identifiers

def Program.identifiers (program : Program) : List String :=
  program.items.flatMap Item.identifiers

theorem mem_declaratorIdentifiers {declarators : List Declarator} {declarator : Declarator}
    {name : String} (member : declarator ∈ declarators) (named : name ∈ declarator.identifiers) :
    name ∈ declaratorIdentifiers declarators := by
  induction declarators with
  | nil => cases member
  | cons first rest ih =>
    rw [declaratorIdentifiers, List.mem_append]
    rcases List.mem_cons.mp member with rfl | later
    · exact .inl named
    · exact .inr (ih later)

theorem mem_patternPropertyIdentifiers {properties : List PatternProperty}
    {property : PatternProperty} {name : String} (member : property ∈ properties)
    (named : name ∈ property.identifiers) : name ∈ patternPropertyIdentifiers properties := by
  induction properties with
  | nil => cases member
  | cons first rest ih =>
    rw [patternPropertyIdentifiers, List.mem_append]
    rcases List.mem_cons.mp member with rfl | later
    · exact .inl named
    · exact .inr (ih later)

theorem Program.mem_identifiers {program : Program} {item : Item} {name : String}
    (member : item ∈ program.items) (named : name ∈ item.identifiers) :
    name ∈ program.identifiers :=
  List.mem_flatMap.mpr ⟨item, member, named⟩

end GrammarEmbed.Ast
