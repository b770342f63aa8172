import GrammarEmbed.Layout.Basic
import GrammarEmbed.Ast.Spans
import GrammarEmbed.Text.StringLiteral

/-!
The layout of syntax trees. The layout of the source plays no part: every statement has its own
line, objects, arrays, classes and blocks are spread over lines, everything else is on one line.
A node has a slot for the comments before its first token and, where it is an expression, pattern
or statement, one for the comments behind its last.
-/

namespace GrammarEmbed.Ast

open Layout (text line indented leading trailing attached commaIn lineIfLeading guarded concat)

/-- A part of a list: where it stood, and its layout. -/
abbrev Part := Span × Layout

/-- The slot for comments that lead the last token of a list part. -/
def partEnd (parent part : Span) : Layout :=
  if part.hi == parent.hi then .empty else leading (part.hi - 1)

/-- Parts divided by commas, each on its own line. -/
def stacked (parent : Span) : List Part → Layout
  | [] => .empty
  | [(span, part)] => part ++ partEnd parent span
  | (span, part) :: rest =>
    part ++ partEnd parent span ++ text "," ++ line ++ stacked parent rest

/-- Parts on one line, divided by commas; `last` follows them. -/
def inlineThen (parent : Span) (last : Layout) : List Part → Layout
  | [] => .empty
  | [(span, part)] => part ++ attached span.hi ++ last ++ partEnd parent span
  | (span, part) :: rest =>
    part ++ attached span.hi ++ partEnd parent span ++ text ", " ++ inlineThen parent last rest

def inline (parent : Span) (parts : List Part) : Layout :=
  inlineThen parent .empty parts

def lines : List Layout → Layout
  | [] => .empty
  | [only] => only
  | first :: rest => first ++ line ++ lines rest

/-- A body between brackets, spread over lines unless it is empty. -/
def braced (isEmpty : Bool) (body : Layout) : Layout :=
  if isEmpty then .empty else line ++ indented body ++ line

/-- A layout and the slot for the comments behind it. -/
def followed (body : Layout) (span : Span) : Layout :=
  body ++ trailing span.hi

def Ident.layout (id : Ident) : Layout :=
  leading id.span.lo ++ text id.name

def StringLit.layout (lit : StringLit) : Layout :=
  leading lit.span.lo ++ text (lit.raw.getD (Text.stringLiteral lit.value))

def privateLayout (span : Span) (name : String) : Layout :=
  leading span.lo ++ text "#" ++ text name

def Literal.layout : Literal → Layout
  | .str lit => lit.layout
  | .num span raw => leading span.lo ++ text raw
  | .bigint span raw => leading span.lo ++ text raw
  | .regex span pattern flags =>
    leading span.lo ++ text "/" ++ text pattern ++ text "/" ++ text flags
  | .bool span true => leading span.lo ++ text "true"
  | .bool span false => leading span.lo ++ text "false"
  | .null span => leading span.lo ++ text "null"

def MetaKind.text : MetaKind → String
  | .importMeta => "import.meta"
  | .newTarget => "new.target"

/-- Line ends of a template are line feeds. -/
def normalizeLines : List Char → List Char
  | '\r' :: '\n' :: rest => '\n' :: normalizeLines rest
  | '\r' :: rest => '\n' :: normalizeLines rest
  | c :: rest => c :: normalizeLines rest
  | [] => []

/-- Pieces of a template around its substitutions. -/
def templateBody (piece : Quasi → String) : List Quasi → List Layout → Layout
  | quasi :: quasis, expr :: exprs =>
    text (piece quasi) ++ text "$\x7b" ++ expr ++ text "\x7d" ++ templateBody piece quasis exprs
  | quasi :: _, [] => text (piece quasi)
  | [], _ => .empty

/-- Whether a member of the number needs a second point, since the first would be taken for part
of the number. -/
def needsSecondPoint (raw : String) : Bool :=
  let digits := raw.toList.filter fun c => c != '_'
  digits.all Char.isDigit && !(2 ≤ digits.length && digits.head? == some '0')

/-- The access that gives an import its phase. -/
def ImportPhase.member : ImportPhase → String
  | .evaluation => ""
  | .source => ".source"
  | .defer => ".defer"

/-- The comments that stand first in a method because they lead its key; those of a private name
stay with it. -/
def PropertyKey.comments : PropertyKey → Layout
  | .privateName .. => .empty
  | key => leading key.span.lo

/-- Whether any comment before an operand is kept from the keyword by parentheses: the operand is
an assignment, or starts with one or with `super` or an import. -/
def keepsComment : Expr → Bool
  | .assign .. | .superMember .. | .superCall .. | .importCall .. => true
  | .member _ e _ | .call _ e _ | .binary _ _ e _ | .conditional _ e _ _ | .sequence _ (e :: _)
  | .optionalMember _ _ e _ | .optionalCall _ _ e _ => keepsComment e
  | _ => false

/-- Whether a space keeps a sign from running into the operand's own. -/
def needsSignGap : UnaryOp → Expr → Bool
  | .plus, .unary _ .plus _ => true
  | .plus, .update _ .increment true _ => true
  | .minus, .unary _ .minus _ => true
  | .minus, .update _ .decrement true _ => true
  | _, _ => false

mutual

/-- The layout of an expression without the comments behind it. -/
def Expr.layout : Expr → Layout
  | .this span => leading span.lo ++ text "this"
  | .ident id => id.layout
  | .literal lit => lit.layout
  | .privateName span name => privateLayout span name
  | .array span elements =>
    leading span.lo ++ text "[" ++
      braced elements.isEmpty (stacked span (elementParts elements) ++ lastHole elements) ++
      text "]"
  | .object span properties =>
    leading span.lo ++ text "\x7b" ++
      (if properties.isEmpty then lineIfLeading (span.hi - 1) else .empty) ++
      braced properties.isEmpty (stacked span (propertyParts properties)) ++ text "\x7d"
  | .function name fn =>
    leading fn.span.lo ++ fn.keyword ++ text "function" ++ fn.star ++
      (match name with
        | some id => text " " ++ id.layout
        | none => .empty) ++ fn.layout
  | .arrow span isAsync params body =>
    leading span.lo ++ text (if isAsync then "async (" else "(") ++
      inline span (patternParts params) ++ text ")=>" ++ body.layout
  | .classExpr name cls =>
    leading cls.span.lo ++ text "class" ++
      (match name with
        | some id => text " " ++ id.layout
        | none => .empty) ++ cls.layout
  | .unary span op operand =>
    leading span.lo ++ text op.text ++
      (if op.isWord || needsSignGap op operand then text " " else .empty) ++
      followed operand.layout operand.span
  | .update span op true operand =>
    leading span.lo ++ text op.text ++ followed operand.layout operand.span
  | .update span op false operand =>
    leading span.lo ++ followed operand.layout operand.span ++ text op.text
  | .binary span op left right =>
    leading span.lo ++ followed left.layout left.span ++ text " " ++ text op.text ++ text " " ++
      followed right.layout right.span
  | .assign span op target value =>
    leading span.lo ++ target.layout ++ text " " ++ text op.text ++ text " " ++
      followed value.layout value.span
  | .member span (.literal (.num numSpan raw)) key =>
    leading span.lo ++ leading numSpan.lo ++ text raw ++
      (if needsSecondPoint raw then key.secondPoint else .empty) ++ key.layout
  | .member span object key => leading span.lo ++ followed object.layout object.span ++ key.layout
  | .superMember span superSpan key =>
    leading span.lo ++ leading superSpan.lo ++ text "super" ++ key.layout
  | .conditional span test consequent alternate =>
    leading span.lo ++ followed test.layout test.span ++ text " ? " ++
      followed consequent.layout consequent.span ++ text " : " ++
      followed alternate.layout alternate.span
  | .call span callee args =>
    leading span.lo ++ followed callee.layout callee.span ++ text "(" ++
      inline span (argumentParts args) ++ text ")"
  | .superCall span superSpan args =>
    leading span.lo ++ leading superSpan.lo ++ text "super" ++ text "(" ++
      inline span (argumentParts args) ++ text ")"
  | .importCall span importSpan phase args =>
    leading span.lo ++ leading importSpan.lo ++ text "import" ++ text phase.member ++ text "(" ++
      inline span (argumentParts args) ++ text ")"
  | .new span callee hasArgs args =>
    leading span.lo ++ text "new " ++ followed callee.layout callee.span ++
      (if hasArgs then text "(" ++ inline span (argumentParts args) ++ text ")" else .empty)
  | .sequence span exprs => leading span.lo ++ sequenceLayout exprs
  | .template span quasis exprs =>
    leading span.lo ++ text "`" ++
      templateBody (fun quasi => String.ofList (normalizeLines quasi.raw.toList)) quasis
        (exprLayouts exprs) ++ text "`"
  | .taggedTemplate span tag template quasis exprs =>
    leading span.lo ++ followed tag.layout tag.span ++ leading template.lo ++ text "`" ++
      templateBody Quasi.raw quasis (exprLayouts exprs) ++ text "`"
  | .yield span delegate none => leading span.lo ++ text (if delegate then "yield*" else "yield")
  | .yield span delegate (some operand) =>
    leading span.lo ++ text (if delegate then "yield*" else "yield") ++
      guarded operand.span.lo (keepsComment operand) (followed operand.layout operand.span)
  | .await span operand =>
    leading span.lo ++ text "await " ++ followed operand.layout operand.span
  | .paren span inner =>
    leading span.lo ++ text "(" ++ followed inner.layout inner.span ++ text ")"
  | .metaProperty span kind => leading span.lo ++ text kind.text
  | .optionalMember span isOptional object key =>
    leading span.lo ++ followed object.layout object.span ++ key.chained isOptional
  | .optionalCall span isOptional callee args =>
    leading span.lo ++ followed callee.layout callee.span ++
      text (if isOptional then "?.(" else "(") ++ inline span (argumentParts args) ++ text ")"

def exprLayouts : List Expr → List Layout
  | [] => []
  | expr :: rest => followed expr.layout expr.span :: exprLayouts rest

def sequenceLayout : List Expr → Layout
  | [] => .empty
  | [only] => followed only.layout only.span
  | expr :: rest => followed expr.layout expr.span ++ text ", " ++ sequenceLayout rest

def elementParts : List Element → List Part
  | [] => []
  | .hole :: rest => (.none, .empty) :: elementParts rest
  | .item arg :: rest => (arg.span, arg.layout) :: elementParts rest

/-- A hole at the end needs a comma of its own. -/
def lastHole : List Element → Layout
  | [] => .empty
  | [.hole] => text ", "
  | _ :: rest => lastHole rest

def argumentParts : List Argument → List Part
  | [] => []
  | arg :: rest => (arg.span, arg.layout) :: argumentParts rest

def Argument.layout : Argument → Layout
  | .mk none value => followed value.layout value.span
  | .mk (some dots) value => leading dots.lo ++ text "..." ++ followed value.layout value.span

/-- A key behind its object, with the point or brackets. -/
def MemberKey.layout : MemberKey → Layout
  | .name id => leading (id.span.lo - 1) ++ text "." ++ id.layout
  | .privateName span name => leading (span.lo - 1) ++ text "." ++ privateLayout span name
  | .computed _ index => text "[" ++ followed index.layout index.span ++ text "]"

/-- The extra point behind a plain decimal number. -/
def MemberKey.secondPoint : MemberKey → Layout
  | .name id => leading (id.span.lo - 2) ++ text "."
  | .privateName span _ => leading (span.lo - 2) ++ text "."
  | .computed .. => .empty

/-- A key behind an object in an optional chain. -/
def MemberKey.chained (isOptional : Bool) : MemberKey → Layout
  | .name id => text (if isOptional then "?." else ".") ++ id.layout
  | .privateName span name => text (if isOptional then "?." else ".") ++ privateLayout span name
  | .computed _ index =>
    text (if isOptional then "?.[" else "[") ++ followed index.layout index.span ++ text "]"

def ArrowBody.layout : ArrowBody → Layout
  | .block body => body.layout
  | .expr body => indented (followed body.layout body.span)

def PropertyKey.layout : PropertyKey → Layout
  | .name id => id.layout
  | .str lit => lit.layout
  | .num span raw => leading span.lo ++ text raw
  | .bigint span raw => leading span.lo ++ text raw
  | .computed _ index => text "[" ++ followed index.layout index.span ++ text "]"
  | .privateName span name => privateLayout span name

def propertyParts : List Property → List Part
  | [] => []
  | property :: rest => (property.span, property.layout) :: propertyParts rest

def Property.layout : Property → Layout
  | .shorthand id => id.layout
  | .keyValue key value =>
    leading key.span.lo ++ key.layout ++ text ": " ++ followed value.layout value.span
  | .initialized span id value =>
    leading span.lo ++ id.layout ++ text "=" ++ followed value.layout value.span
  | .getter span key body =>
    leading span.lo ++ text "get " ++ key.layout ++ text " () " ++ body.layout
  | .setter span key param body =>
    leading span.lo ++ text "set " ++ key.layout ++ text " (" ++
      followed param.layout param.span ++ text ")" ++ body.layout
  | .method key fn =>
    leading key.span.lo ++ fn.keyword ++ fn.star ++ key.layout ++ text " " ++ fn.layout
  | .spread dots value =>
    leading dots.lo ++ text "..." ++ followed value.layout value.span

def Pattern.layout : Pattern → Layout
  | .ident id => id.layout
  | .array span elements =>
    leading span.lo ++ text "[" ++ inline span (optionalParts elements) ++ lastGap elements ++
      text "]"
  | .object span [] => leading span.lo ++ text "\x7b\x7d"
  | .object span properties =>
    leading span.lo ++ text "\x7b " ++ inline span (patternPropertyParts properties) ++
      text " \x7d"
  | .rest span inner => leading span.lo ++ text "..." ++ followed inner.layout inner.span
  | .assign span left right =>
    leading span.lo ++ followed left.layout left.span ++ text " = " ++
      followed right.layout right.span
  | .expr target => target.layout

def patternParts : List Pattern → List Part
  | [] => []
  | pattern :: rest =>
    (pattern.span, followed pattern.layout pattern.span) :: patternParts rest

def optionalParts : List (Option Pattern) → List Part
  | [] => []
  | none :: rest => (.none, .empty) :: optionalParts rest
  | some pattern :: rest =>
    (pattern.span, followed pattern.layout pattern.span) :: optionalParts rest

/-- A hole at the end needs a comma of its own. -/
def lastGap : List (Option Pattern) → Layout
  | [] => .empty
  | [none] => text ", "
  | _ :: rest => lastGap rest

def patternPropertyParts : List PatternProperty → List Part
  | [] => []
  | property :: rest => (property.span, property.layout) :: patternPropertyParts rest

def PatternProperty.layout : PatternProperty → Layout
  | .keyValue key value =>
    leading key.span.lo ++ key.layout ++ text ": " ++ followed value.layout value.span
  | .shorthand span id none => leading span.lo ++ id.layout
  | .shorthand span id (some fallback) =>
    leading span.lo ++ id.layout ++ text " = " ++ followed fallback.layout fallback.span
  | .rest span inner => leading span.lo ++ text "..." ++ followed inner.layout inner.span

/-- The word before `function` or a method's key. -/
def Func.keyword : Func → Layout
  | .mk _ _ _ _ isAsync => if isAsync then text "async " else .empty

def Func.star : Func → Layout
  | .mk _ _ _ isGenerator _ => if isGenerator then text "*" else .empty

def Func.layout : Func → Layout
  | .mk span params body _ _ =>
    text "(" ++ inline span (patternParts params) ++ text ") " ++ body.layout

def Block.layout : Block → Layout
  | .mk span stmts =>
    leading span.lo ++ text "\x7b" ++
      (if stmts.isEmpty then lineIfLeading (span.hi - 1) else .empty) ++
      braced stmts.isEmpty (lines (stmtLayouts stmts)) ++ leading (span.hi - 1) ++ text "\x7d"

def ClassDef.layout : ClassDef → Layout
  | .mk _ none members =>
    text " \x7b" ++ line ++ indented (lines (memberLayouts members)) ++ line ++ text "\x7d"
  | .mk _ (some superclass) members =>
    text " extends " ++ followed superclass.layout superclass.span ++
      text " \x7b" ++ line ++ indented (lines (memberLayouts members)) ++ line ++ text "\x7d"

def memberLayouts : List ClassMember → List Layout
  | [] => []
  | member :: rest => member.layout :: memberLayouts rest

def ClassMember.layout : ClassMember → Layout
  | .constructor span _ params none =>
    leading span.lo ++ text "constructor(" ++ inline span (patternParts params) ++ text ");"
  | .constructor span _ params (some body) =>
    leading span.lo ++ text "constructor(" ++ inline span (patternParts params) ++ text ")" ++
      body.layout
  | .method span isStatic kind key fn =>
    leading span.lo ++ key.comments ++ (if isStatic then text "static " else .empty) ++
      (match kind with
        | .method => fn.keyword ++ fn.star
        | .getter => text "get "
        | .setter => text "set ") ++ key.layout ++ fn.layout
  | .field span isStatic key none =>
    leading span.lo ++ (if isStatic then text "static " else .empty) ++ key.layout ++ text ";"
  | .field span isStatic key (some value) =>
    leading span.lo ++ (if isStatic then text "static " else .empty) ++ key.layout ++
      text " = " ++ followed value.layout value.span ++ text ";"
  | .staticBlock span body => leading span.lo ++ text "static" ++ body.layout
  | .empty span => leading span.lo ++ text ";"

def Declarator.layout : Declarator → Layout
  | .mk span target none => leading span.lo ++ followed target.layout target.span
  | .mk span target (some init) =>
    leading span.lo ++ followed target.layout target.span ++ text " = " ++
      followed init.layout init.span

def declaratorParts : List Declarator → List Part
  | [] => []
  | declarator :: rest => (declarator.span, declarator.layout) :: declaratorParts rest

def VarDecl.layout : VarDecl → Layout
  | .mk span kind declarators =>
    leading span.lo ++ text kind.text ++ text " " ++ inline span (declaratorParts declarators)

def Decl.layout : Decl → Layout
  | .var d => d.layout ++ text ";"
  | .function name fn =>
    leading fn.span.lo ++ fn.keyword ++ text "function" ++ fn.star ++ text " " ++ name.layout ++
      fn.layout
  | .class name cls =>
    leading cls.span.lo ++ text "class " ++ name.layout ++ cls.layout

def ForHead.layout : ForHead → Layout
  | .none => .empty
  | .decl d => d.layout
  | .pattern target => followed target.layout target.span

def CatchClause.layout : CatchClause → Layout
  | .mk span none body => leading span.lo ++ text "catch  " ++ body.layout
  | .mk span (some param) body =>
    leading span.lo ++ text "catch (" ++ followed param.layout param.span ++ text ") " ++
      body.layout

def SwitchCase.layout : SwitchCase → Layout
  | .mk span none body =>
    leading span.lo ++ text "default:" ++ line ++ indented (lines (stmtLayouts body)) ++ line
  | .mk span (some test) body =>
    leading span.lo ++ text "case " ++ followed test.layout test.span ++ text ":" ++ line ++
      indented (lines (stmtLayouts body)) ++ line

def caseLayouts : List SwitchCase → List Layout
  | [] => []
  | case :: rest => case.layout :: caseLayouts rest

def stmtLayouts : List Stmt → List Layout
  | [] => []
  | stmt :: rest => stmt.layout :: stmtLayouts rest

/-- A statement with the end of its line; a block has none. -/
def Stmt.layout : Stmt → Layout
  | .block body => body.layout
  | .empty span => leading span.lo ++ text ";" ++ trailing span.hi ++ line
  | .expr span value =>
    leading span.lo ++ followed value.layout value.span ++ text ";" ++ trailing span.hi ++ line
  | .decl d => d.layout ++ trailing d.span.hi ++ line
  | .ifElse span test consequent none =>
    leading span.lo ++ text "if (" ++ followed test.layout test.span ++ text ") " ++
      consequent.layout ++ trailing span.hi ++ line
  | .ifElse span test consequent (some alternate) =>
    leading span.lo ++ text "if (" ++ followed test.layout test.span ++ text ") " ++
      consequent.layout ++
      (match consequent with
        | .block _ => text " "
        | _ => .empty) ++ text "else " ++ alternate.layout ++ trailing span.hi ++ line
  | .for span init test update body =>
    leading span.lo ++ text "for(" ++ init.layout ++ text ";" ++ spacedLayout test ++ text ";" ++
      spacedLayout update ++ text ")" ++ body.layout ++ trailing span.hi ++ line
  | .forIn span head object body =>
    leading span.lo ++ text "for(" ++ head.layout ++ text " in " ++
      followed object.layout object.span ++ text ")" ++ body.layout ++ trailing span.hi ++ line
  | .forOf span isAwait head iterable body =>
    leading span.lo ++ text (if isAwait then "for await (" else "for (") ++ head.layout ++
      text " of " ++ followed iterable.layout iterable.span ++ text ")" ++ body.layout ++
      trailing span.hi ++ line
  | .while span test body =>
    leading span.lo ++ text "while(" ++ followed test.layout test.span ++ text ")" ++
      body.layout ++ trailing span.hi ++ line
  | .doWhile span body test =>
    leading span.lo ++ text "do " ++ body.layout ++ text "while (" ++
      followed test.layout test.span ++ text ")" ++ trailing span.hi ++ line
  | .return span none => leading span.lo ++ text "return;" ++ trailing span.hi ++ line
  | .return span (some value) =>
    leading span.lo ++ text "return" ++
      guarded value.span.lo (keepsComment value) (followed value.layout value.span) ++
      text ";" ++ trailing span.hi ++ line
  | .break span none => text "break;" ++ trailing span.hi ++ line
  | .break span (some label) =>
    text "break " ++ label.layout ++ text ";" ++ trailing span.hi ++ line
  | .continue span none => leading span.lo ++ text "continue;" ++ trailing span.hi ++ line
  | .continue span (some label) =>
    leading span.lo ++ text "continue " ++ label.layout ++ text ";" ++ trailing span.hi ++ line
  | .throw span value =>
    leading span.lo ++ text "throw" ++
      guarded value.span.lo (keepsComment value) (followed value.layout value.span) ++
      text ";" ++ trailing span.hi ++ line
  | .try span body handler finalizer =>
    leading span.lo ++ text "try " ++ body.layout ++ handlerLayout handler ++
      finalizerLayout finalizer ++ trailing span.hi ++ line
  | .switch span discriminant cases =>
    leading span.lo ++ text "switch(" ++ followed discriminant.layout discriminant.span ++
      text ")\x7b" ++ line ++ indented (lines (caseLayouts cases)) ++ line ++ text "\x7d" ++
      trailing span.hi ++ line
  | .labeled span label body =>
    leading span.lo ++ label.layout ++ text ": " ++ body.layout ++ trailing span.hi ++ line
  | .with span object body =>
    text "with (" ++ followed object.layout object.span ++ text ")" ++
      body.layout ++ trailing span.hi ++ line
  | .debugger span => leading span.lo ++ text "debugger;" ++ trailing span.hi ++ line

/-- An optional expression of a loop's head after its semicolon. -/
def spacedLayout : Option Expr → Layout
  | none => .empty
  | some expr => text " " ++ followed expr.layout expr.span

def handlerLayout : Option CatchClause → Layout
  | none => .empty
  | some clause => text " " ++ clause.layout

def finalizerLayout : Option Block → Layout
  | none => .empty
  | some body => text " finally" ++ body.layout

end

end GrammarEmbed.Ast
