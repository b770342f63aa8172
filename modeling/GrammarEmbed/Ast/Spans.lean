import GrammarEmbed.Ast.Basic

namespace GrammarEmbed.Ast

def Literal.span : Literal → Span
  | .str lit => lit.span
  | .num span _ | .bigint span _ | .regex span _ _ | .bool span _ | .null span => span

def Func.span : Func → Span
  | .mk span .. => span

def Block.span : Block → Span
  | .mk span _ => span

def ClassDef.span : ClassDef → Span
  | .mk span .. => span

def Expr.span : Expr → Span
  | .ident id => id.span
  | .literal lit => lit.span
  | .function _ fn => fn.span
  | .classExpr _ cls => cls.span
  | .this span | .privateName span _ | .array span _ | .object span _ | .arrow span ..
  | .unary span .. | .update span .. | .binary span .. | .assign span .. | .member span ..
  | .superMember span .. | .conditional span .. | .call span .. | .superCall span ..
  | .importCall span .. | .new span .. | .sequence span _ | .template span ..
  | .taggedTemplate span .. | .yield span .. | .await span _ | .paren span _
  | .metaProperty span _ | .optionalMember span .. | .optionalCall span .. => span

def Argument.span : Argument → Span
  | .mk none value => value.span
  | .mk (some dots) value => dots.through value.span

def Element.span : Element → Span
  | .hole => .none
  | .item arg => arg.span

def MemberKey.span : MemberKey → Span
  | .name id => id.span
  | .privateName span _ | .computed span _ => span

def PropertyKey.span : PropertyKey → Span
  | .name id => id.span
  | .str lit => lit.span
  | .num span _ | .bigint span _ | .computed span _ | .privateName span _ => span

def Pattern.span : Pattern → Span
  | .ident id => id.span
  | .expr target => target.span
  | .array span _ | .object span _ | .rest span _ | .assign span .. => span

def Property.span : Property → Span
  | .shorthand id => id.span
  | .keyValue key value => key.span.through value.span
  | .method key fn => key.span.through fn.span
  | .spread dots value => dots.through value.span
  | .initialized span .. | .getter span .. | .setter span .. => span

def PatternProperty.span : PatternProperty → Span
  | .keyValue key value => key.span.through value.span
  | .shorthand span .. | .rest span _ => span

def ClassMember.span : ClassMember → Span
  | .constructor span .. | .method span .. | .field span .. | .staticBlock span _ | .empty span =>
    span

def Declarator.span : Declarator → Span
  | .mk span .. => span

def VarDecl.span : VarDecl → Span
  | .mk span .. => span

def Decl.span : Decl → Span
  | .var d => d.span
  | .function _ fn => fn.span
  | .class _ cls => cls.span

def CatchClause.span : CatchClause → Span
  | .mk span .. => span

def SwitchCase.span : SwitchCase → Span
  | .mk span .. => span

def Stmt.span : Stmt → Span
  | .block body => body.span
  | .decl d => d.span
  | .empty span | .expr span _ | .ifElse span .. | .for span .. | .forIn span .. | .forOf span ..
  | .while span .. | .doWhile span .. | .return span _ | .break span _ | .continue span _
  | .throw span _ | .try span .. | .switch span .. | .labeled span .. | .with span ..
  | .debugger span => span

def ModuleName.span : ModuleName → Span
  | .ident id => id.span
  | .str lit => lit.span

def ImportSpecifier.span : ImportSpecifier → Span
  | .default id => id.span
  | .namespace span _ | .named span .. => span

def ExportSpecifier.span : ExportSpecifier → Span
  | .namespace span _ | .named span .. => span

def Item.span : Item → Span
  | .stmt s => s.span
  | .importDecl span .. | .exportDecl span _ | .exportNamed span .. | .exportAll span _
  | .exportDefaultFunction span .. | .exportDefaultClass span .. | .exportDefaultExpr span _ => span

end GrammarEmbed.Ast
