import GrammarEmbed.Ast.Basic

namespace GrammarEmbed.Ast

def Ident.cleared (id : Ident) : Ident :=
  { id with span := .none }

def StringLit.cleared (lit : StringLit) : StringLit :=
  { lit with span := .none }

def Quasi.cleared (quasi : Quasi) : Quasi :=
  { quasi with span := .none }

def Literal.cleared : Literal → Literal
  | .str lit => .str lit.cleared
  | .num _ raw => .num .none raw
  | .bigint _ raw => .bigint .none raw
  | .regex _ pattern flags => .regex .none pattern flags
  | .bool _ value => .bool .none value
  | .null _ => .null .none

mutual

def Expr.cleared : Expr → Expr
  | .this _ => .this .none
  | .ident id => .ident id.cleared
  | .literal lit => .literal lit.cleared
  | .privateName _ name => .privateName .none name
  | .array _ elements => .array .none (clearedElements elements)
  | .object _ properties => .object .none (clearedProperties properties)
  | .function name fn => .function (name.map Ident.cleared) fn.cleared
  | .arrow _ isAsync params body => .arrow .none isAsync (clearedPatterns params) body.cleared
  | .classExpr name cls => .classExpr (name.map Ident.cleared) cls.cleared
  | .unary _ op operand => .unary .none op operand.cleared
  | .update _ op isPrefix operand => .update .none op isPrefix operand.cleared
  | .binary _ op left right => .binary .none op left.cleared right.cleared
  | .assign _ op target value => .assign .none op target.cleared value.cleared
  | .member _ object key => .member .none object.cleared key.cleared
  | .superMember _ _ key => .superMember .none .none key.cleared
  | .conditional _ test consequent alternate =>
    .conditional .none test.cleared consequent.cleared alternate.cleared
  | .call _ callee args => .call .none callee.cleared (clearedArguments args)
  | .superCall _ _ args => .superCall .none .none (clearedArguments args)
  | .importCall _ _ phase args => .importCall .none .none phase (clearedArguments args)
  | .new _ callee hasArgs args => .new .none callee.cleared hasArgs (clearedArguments args)
  | .sequence _ exprs => .sequence .none (clearedExprs exprs)
  | .template _ quasis exprs => .template .none (quasis.map Quasi.cleared) (clearedExprs exprs)
  | .taggedTemplate _ tag _ quasis exprs =>
    .taggedTemplate .none tag.cleared .none (quasis.map Quasi.cleared) (clearedExprs exprs)
  | .yield _ delegate operand => .yield .none delegate (clearedOptional operand)
  | .await _ operand => .await .none operand.cleared
  | .paren _ inner => .paren .none inner.cleared
  | .metaProperty _ kind => .metaProperty .none kind
  | .optionalMember _ isOptional object key =>
    .optionalMember .none isOptional object.cleared key.cleared
  | .optionalCall _ isOptional callee args =>
    .optionalCall .none isOptional callee.cleared (clearedArguments args)

def clearedExprs : List Expr → List Expr
  | [] => []
  | e :: rest => e.cleared :: clearedExprs rest

def clearedOptional : Option Expr → Option Expr
  | none => none
  | some e => some e.cleared

def clearedElements : List Element → List Element
  | [] => []
  | .hole :: rest => .hole :: clearedElements rest
  | .item arg :: rest => .item arg.cleared :: clearedElements rest

def Argument.cleared : Argument → Argument
  | .mk dots value => .mk (dots.map fun _ => .none) value.cleared

def clearedArguments : List Argument → List Argument
  | [] => []
  | arg :: rest => arg.cleared :: clearedArguments rest

def MemberKey.cleared : MemberKey → MemberKey
  | .name id => .name id.cleared
  | .privateName _ name => .privateName .none name
  | .computed _ index => .computed .none index.cleared

def ArrowBody.cleared : ArrowBody → ArrowBody
  | .block body => .block body.cleared
  | .expr body => .expr body.cleared

def PropertyKey.cleared : PropertyKey → PropertyKey
  | .name id => .name id.cleared
  | .str lit => .str lit.cleared
  | .num _ raw => .num .none raw
  | .bigint _ raw => .bigint .none raw
  | .computed _ index => .computed .none index.cleared
  | .privateName _ name => .privateName .none name

def Property.cleared : Property → Property
  | .shorthand id => .shorthand id.cleared
  | .keyValue key value => .keyValue key.cleared value.cleared
  | .initialized _ id value => .initialized .none id.cleared value.cleared
  | .getter _ key body => .getter .none key.cleared body.cleared
  | .setter _ key param body => .setter .none key.cleared param.cleared body.cleared
  | .method key fn => .method key.cleared fn.cleared
  | .spread _ value => .spread .none value.cleared

def clearedProperties : List Property → List Property
  | [] => []
  | property :: rest => property.cleared :: clearedProperties rest

def Pattern.cleared : Pattern → Pattern
  | .ident id => .ident id.cleared
  | .array _ elements => .array .none (clearedGaps elements)
  | .object _ properties => .object .none (clearedPatternProperties properties)
  | .rest _ inner => .rest .none inner.cleared
  | .assign _ left right => .assign .none left.cleared right.cleared
  | .expr target => .expr target.cleared

def clearedPatterns : List Pattern → List Pattern
  | [] => []
  | pattern :: rest => pattern.cleared :: clearedPatterns rest

/-- The elements of an array pattern, of which some may be missing. -/
def clearedGaps : List (Option Pattern) → List (Option Pattern)
  | [] => []
  | none :: rest => none :: clearedGaps rest
  | some pattern :: rest => some pattern.cleared :: clearedGaps rest

def PatternProperty.cleared : PatternProperty → PatternProperty
  | .keyValue key value => .keyValue key.cleared value.cleared
  | .shorthand _ id fallback => .shorthand .none id.cleared (clearedOptional fallback)
  | .rest _ inner => .rest .none inner.cleared

def clearedPatternProperties : List PatternProperty → List PatternProperty
  | [] => []
  | property :: rest => property.cleared :: clearedPatternProperties rest

def Func.cleared : Func → Func
  | .mk _ params body isGenerator isAsync =>
    .mk .none (clearedPatterns params) body.cleared isGenerator isAsync

def Block.cleared : Block → Block
  | .mk _ stmts => .mk .none (clearedStmts stmts)

def ClassDef.cleared : ClassDef → ClassDef
  | .mk _ superclass members => .mk .none (clearedOptional superclass) (clearedMembers members)

def ClassMember.cleared : ClassMember → ClassMember
  | .constructor _ key params body =>
    .constructor .none key.cleared (clearedPatterns params) (clearedBody body)
  | .method _ isStatic kind key fn => .method .none isStatic kind key.cleared fn.cleared
  | .field _ isStatic key value => .field .none isStatic key.cleared (clearedOptional value)
  | .staticBlock _ body => .staticBlock .none body.cleared
  | .empty _ => .empty .none

def clearedMembers : List ClassMember → List ClassMember
  | [] => []
  | member :: rest => member.cleared :: clearedMembers rest

def clearedBody : Option Block → Option Block
  | none => none
  | some body => some body.cleared

def Declarator.cleared : Declarator → Declarator
  | .mk _ target init => .mk .none target.cleared (clearedOptional init)

def clearedDeclarators : List Declarator → List Declarator
  | [] => []
  | declarator :: rest => declarator.cleared :: clearedDeclarators rest

def VarDecl.cleared : VarDecl → VarDecl
  | .mk _ kind declarators => .mk .none kind (clearedDeclarators declarators)

def Decl.cleared : Decl → Decl
  | .var decl => .var decl.cleared
  | .function name fn => .function name.cleared fn.cleared
  | .class name cls => .class name.cleared cls.cleared

def ForHead.cleared : ForHead → ForHead
  | .none => .none
  | .decl decl => .decl decl.cleared
  | .pattern target => .pattern target.cleared

def CatchClause.cleared : CatchClause → CatchClause
  | .mk _ none body => .mk .none none body.cleared
  | .mk _ (some param) body => .mk .none (some param.cleared) body.cleared

def clearedHandler : Option CatchClause → Option CatchClause
  | none => none
  | some clause => some clause.cleared

def SwitchCase.cleared : SwitchCase → SwitchCase
  | .mk _ test body => .mk .none (clearedOptional test) (clearedStmts body)

def clearedCases : List SwitchCase → List SwitchCase
  | [] => []
  | case :: rest => case.cleared :: clearedCases rest

def Stmt.cleared : Stmt → Stmt
  | .block body => .block body.cleared
  | .empty _ => .empty .none
  | .expr _ value => .expr .none value.cleared
  | .decl decl => .decl decl.cleared
  | .ifElse _ test consequent none => .ifElse .none test.cleared consequent.cleared none
  | .ifElse _ test consequent (some alternate) =>
    .ifElse .none test.cleared consequent.cleared (some alternate.cleared)
  | .for _ init test update body =>
    .for .none init.cleared (clearedOptional test) (clearedOptional update) body.cleared
  | .forIn _ head object body => .forIn .none head.cleared object.cleared body.cleared
  | .forOf _ isAwait head iterable body =>
    .forOf .none isAwait head.cleared iterable.cleared body.cleared
  | .while _ test body => .while .none test.cleared body.cleared
  | .doWhile _ body test => .doWhile .none body.cleared test.cleared
  | .return _ value => .return .none (clearedOptional value)
  | .break _ label => .break .none (label.map Ident.cleared)
  | .continue _ label => .continue .none (label.map Ident.cleared)
  | .throw _ value => .throw .none value.cleared
  | .try _ body handler finalizer =>
    .try .none body.cleared (clearedHandler handler) (clearedBody finalizer)
  | .switch _ discriminant cases => .switch .none discriminant.cleared (clearedCases cases)
  | .labeled _ label body => .labeled .none label.cleared body.cleared
  | .with _ object body => .with .none object.cleared body.cleared
  | .debugger _ => .debugger .none

def clearedStmts : List Stmt → List Stmt
  | [] => []
  | stmt :: rest => stmt.cleared :: clearedStmts rest

end

def ModuleName.cleared : ModuleName → ModuleName
  | .ident id => .ident id.cleared
  | .str lit => .str lit.cleared

def ImportSpecifier.cleared : ImportSpecifier → ImportSpecifier
  | .default id => .default id.cleared
  | .namespace _ id => .namespace .none id.cleared
  | .named _ id imported => .named .none id.cleared (imported.map ModuleName.cleared)

def ExportSpecifier.cleared : ExportSpecifier → ExportSpecifier
  | .namespace _ name => .namespace .none name.cleared
  | .named _ name exported => .named .none name.cleared (exported.map ModuleName.cleared)

def Item.cleared : Item → Item
  | .stmt s => .stmt s.cleared
  | .importDecl _ phase specifiers source =>
    .importDecl .none phase (specifiers.map ImportSpecifier.cleared) source.cleared
  | .exportDecl _ decl => .exportDecl .none decl.cleared
  | .exportNamed _ specifiers source =>
    .exportNamed .none (specifiers.map ExportSpecifier.cleared) (source.map StringLit.cleared)
  | .exportAll _ source => .exportAll .none source.cleared
  | .exportDefaultFunction _ name fn =>
    .exportDefaultFunction .none (name.map Ident.cleared) fn.cleared
  | .exportDefaultClass _ name cls => .exportDefaultClass .none (name.map Ident.cleared) cls.cleared
  | .exportDefaultExpr _ value => .exportDefaultExpr .none value.cleared

def Program.cleared (program : Program) : Program :=
  { program with span := .none, items := program.items.map Item.cleared }

end GrammarEmbed.Ast
