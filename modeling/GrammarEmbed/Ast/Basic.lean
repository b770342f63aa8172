import GrammarEmbed.Ast.Span
import GrammarEmbed.Ast.Operator

/-!
Syntax trees of ECMAScript programs. Every node knows the span it was read from. Literals keep
their source text, parentheses are nodes of their own, and nothing else of the source layout is
kept.
-/

namespace GrammarEmbed.Ast

structure Ident where
  span : Span
  name : String
deriving DecidableEq, Repr, Inhabited

/-- A string literal: its value, and its source text unless it was made by a program. -/
structure StringLit where
  span : Span
  value : String
  raw : Option String
deriving DecidableEq, Repr, Inhabited

/-- A piece of a template between substitutions, as written. -/
structure Quasi where
  span : Span
  raw : String
deriving DecidableEq, Repr, Inhabited

inductive Literal where
  | str (lit : StringLit)
  | num (span : Span) (raw : String)
  | bigint (span : Span) (raw : String)
  | regex (span : Span) (pattern flags : String)
  | bool (span : Span) (value : Bool)
  | null (span : Span)
deriving DecidableEq, Repr, Inhabited

/-- `import.meta` and `new.target`. -/
inductive MetaKind where
  | importMeta
  | newTarget
deriving DecidableEq, Repr, Inhabited

/-- The word of an import that changes when the module runs. -/
inductive ImportPhase where
  | evaluation
  | source
  | defer
deriving DecidableEq, Repr, Inhabited

inductive MethodKind where
  | method
  | getter
  | setter
deriving DecidableEq, Repr, Inhabited

mutual

inductive Expr where
  | this (span : Span)
  | ident (id : Ident)
  | literal (lit : Literal)
  | privateName (span : Span) (name : String)
  | array (span : Span) (elements : List Element)
  | object (span : Span) (properties : List Property)
  | function (name : Option Ident) (fn : Func)
  | arrow (span : Span) (isAsync : Bool) (params : List Pattern) (body : ArrowBody)
  | classExpr (name : Option Ident) (cls : ClassDef)
  | unary (span : Span) (op : UnaryOp) (operand : Expr)
  | update (span : Span) (op : UpdateOp) (isPrefix : Bool) (operand : Expr)
  | binary (span : Span) (op : BinaryOp) (left right : Expr)
  | assign (span : Span) (op : AssignOp) (target : Pattern) (value : Expr)
  | member (span : Span) (object : Expr) (key : MemberKey)
  | superMember (span superSpan : Span) (key : MemberKey)
  | conditional (span : Span) (test consequent alternate : Expr)
  | call (span : Span) (callee : Expr) (args : List Argument)
  | superCall (span superSpan : Span) (args : List Argument)
  | importCall (span importSpan : Span) (phase : ImportPhase) (args : List Argument)
  | new (span : Span) (callee : Expr) (hasArgs : Bool) (args : List Argument)
  | sequence (span : Span) (exprs : List Expr)
  | template (span : Span) (quasis : List Quasi) (exprs : List Expr)
  | taggedTemplate (span : Span) (tag : Expr) (template : Span) (quasis : List Quasi)
      (exprs : List Expr)
  | yield (span : Span) (delegate : Bool) (operand : Option Expr)
  | await (span : Span) (operand : Expr)
  | paren (span : Span) (inner : Expr)
  | metaProperty (span : Span) (kind : MetaKind)
  | optionalMember (span : Span) (isOptional : Bool) (object : Expr) (key : MemberKey)
  | optionalCall (span : Span) (isOptional : Bool) (callee : Expr) (args : List Argument)

inductive Element where
  | hole
  | item (arg : Argument)

/-- An argument, spread if it has dots. -/
inductive Argument where
  | mk (dots : Option Span) (value : Expr)

/-- What follows the object of a member access. -/
inductive MemberKey where
  | name (id : Ident)
  | privateName (span : Span) (name : String)
  | computed (span : Span) (index : Expr)

inductive ArrowBody where
  | block (body : Block)
  | expr (body : Expr)

inductive PropertyKey where
  | name (id : Ident)
  | str (lit : StringLit)
  | num (span : Span) (raw : String)
  | bigint (span : Span) (raw : String)
  | computed (span : Span) (index : Expr)
  | privateName (span : Span) (name : String)

inductive Property where
  | shorthand (id : Ident)
  | keyValue (key : PropertyKey) (value : Expr)
  | initialized (span : Span) (id : Ident) (value : Expr)
  | getter (span : Span) (key : PropertyKey) (body : Block)
  | setter (span : Span) (key : PropertyKey) (param : Pattern) (body : Block)
  | method (key : PropertyKey) (fn : Func)
  | spread (dots : Span) (value : Expr)

inductive Pattern where
  | ident (id : Ident)
  | array (span : Span) (elements : List (Option Pattern))
  | object (span : Span) (properties : List PatternProperty)
  | rest (span : Span) (inner : Pattern)
  | assign (span : Span) (left : Pattern) (right : Expr)
  | expr (target : Expr)

inductive PatternProperty where
  | keyValue (key : PropertyKey) (value : Pattern)
  | shorthand (span : Span) (id : Ident) (fallback : Option Expr)
  | rest (span : Span) (inner : Pattern)

inductive Func where
  | mk (span : Span) (params : List Pattern) (body : Block) (isGenerator isAsync : Bool)

inductive Block where
  | mk (span : Span) (stmts : List Stmt)

inductive ClassDef where
  | mk (span : Span) (superclass : Option Expr) (members : List ClassMember)

inductive ClassMember where
  | constructor (span : Span) (key : PropertyKey) (params : List Pattern) (body : Option Block)
  | method (span : Span) (isStatic : Bool) (kind : MethodKind) (key : PropertyKey) (fn : Func)
  | field (span : Span) (isStatic : Bool) (key : PropertyKey) (value : Option Expr)
  | staticBlock (span : Span) (body : Block)
  | empty (span : Span)

inductive Declarator where
  | mk (span : Span) (target : Pattern) (init : Option Expr)

inductive VarDecl where
  | mk (span : Span) (kind : VarKind) (declarators : List Declarator)

inductive Decl where
  | var (decl : VarDecl)
  | function (name : Ident) (fn : Func)
  | class (name : Ident) (cls : ClassDef)

/-- What stands first between the parentheses of a loop: nothing, declarations, or a target,
which is an expression in the loop with three parts. -/
inductive ForHead where
  | none
  | decl (decl : VarDecl)
  | pattern (target : Pattern)

inductive CatchClause where
  | mk (span : Span) (param : Option Pattern) (body : Block)

inductive SwitchCase where
  | mk (span : Span) (test : Option Expr) (body : List Stmt)

inductive Stmt where
  | block (body : Block)
  | empty (span : Span)
  | expr (span : Span) (value : Expr)
  | decl (decl : Decl)
  | ifElse (span : Span) (test : Expr) (consequent : Stmt) (alternate : Option Stmt)
  | for (span : Span) (init : ForHead) (test update : Option Expr) (body : Stmt)
  | forIn (span : Span) (head : ForHead) (object : Expr) (body : Stmt)
  | forOf (span : Span) (isAwait : Bool) (head : ForHead) (iterable : Expr) (body : Stmt)
  | while (span : Span) (test : Expr) (body : Stmt)
  | doWhile (span : Span) (body : Stmt) (test : Expr)
  | return (span : Span) (value : Option Expr)
  | break (span : Span) (label : Option Ident)
  | continue (span : Span) (label : Option Ident)
  | throw (span : Span) (value : Expr)
  | try (span : Span) (body : Block) (handler : Option CatchClause) (finalizer : Option Block)
  | switch (span : Span) (discriminant : Expr) (cases : List SwitchCase)
  | labeled (span : Span) (label : Ident) (body : Stmt)
  | with (span : Span) (object : Expr) (body : Stmt)
  | debugger (span : Span)

end

/-- A name in an import or export list, which may be written as a string. -/
inductive ModuleName where
  | ident (id : Ident)
  | str (lit : StringLit)
deriving DecidableEq, Repr, Inhabited

inductive ImportSpecifier where
  | default (local_ : Ident)
  | namespace (span : Span) (local_ : Ident)
  | named (span : Span) (local_ : Ident) (imported : Option ModuleName)
deriving DecidableEq, Repr, Inhabited

inductive ExportSpecifier where
  | namespace (span : Span) (name : ModuleName)
  | named (span : Span) (local_ : ModuleName) (exported : Option ModuleName)
deriving DecidableEq, Repr, Inhabited

inductive Item where
  | stmt (stmt : Stmt)
  | importDecl (span : Span) (phase : ImportPhase) (specifiers : List ImportSpecifier)
      (source : StringLit)
  | exportDecl (span : Span) (decl : Decl)
  | exportNamed (span : Span) (specifiers : List ExportSpecifier) (source : Option StringLit)
  | exportAll (span : Span) (source : StringLit)
  | exportDefaultFunction (span : Span) (name : Option Ident) (fn : Func)
  | exportDefaultClass (span : Span) (name : Option Ident) (cls : ClassDef)
  | exportDefaultExpr (span : Span) (value : Expr)

inductive ProgramKind where
  | script
  | module
deriving DecidableEq, Repr, Inhabited

structure Program where
  span : Span
  kind : ProgramKind
  shebang : Option String
  items : List Item

end GrammarEmbed.Ast
