import GrammarEmbed.Ast.Cleared
import GrammarEmbed.Layout.Ast

namespace GrammarEmbed.Ast

open Layout (text line leading trailing commaIn concat)

def ModuleName.layout : ModuleName → Layout
  | .ident id => id.layout
  | .str lit => lit.layout

def ImportSpecifier.layout : ImportSpecifier → Layout
  | .default id => id.layout
  | .namespace _ id => text "* as " ++ id.layout
  | .named span id none => leading span.lo ++ id.layout
  | .named span id (some imported) =>
    leading span.lo ++ imported.layout ++ text " as " ++ id.layout

/-- Whether a specifier stands between the braces of an import. -/
def ImportSpecifier.isNamed : ImportSpecifier → Bool
  | .named .. => true
  | _ => false

def ExportSpecifier.layout : ExportSpecifier → Layout
  | .namespace span name => leading span.lo ++ text "* as " ++ name.layout
  | .named span name none => leading span.lo ++ name.layout
  | .named span name (some exported) =>
    leading span.lo ++ name.layout ++ text " as " ++ exported.layout

/-- Whether a specifier stands between the braces of an export. -/
def ExportSpecifier.isNamed : ExportSpecifier → Bool
  | .named .. => true
  | _ => false

/-- The specifiers of an import outside its braces. -/
def outerSpecifiers : List ImportSpecifier → List Layout
  | [] => []
  | .named .. :: rest => outerSpecifiers rest
  | specifier :: rest => specifier.layout :: outerSpecifiers rest

def commas : List Layout → Layout
  | [] => .empty
  | [only] => only
  | first :: rest => first ++ text ", " ++ commas rest

/-- A list of names in braces; an empty one keeps a space. A comma before the last character of the
declaration is kept. -/
def braces (parent : Span) (parts : List Part) : Layout :=
  if parts.isEmpty then text "\x7b \x7d"
  else text "\x7b " ++ inlineThen parent (commaIn parent.lo parent.hi) parts ++ text " \x7d"

def ImportPhase.layout : ImportPhase → Layout
  | .evaluation => .empty
  | .source => text "source "
  | .defer => text "defer "

def importClause (span : Span) (specifiers : List ImportSpecifier) : Layout :=
  let named := specifiers.filter ImportSpecifier.isNamed
  let inner := if named.isEmpty then []
    else [braces span (named.map fun specifier => (specifier.span, specifier.layout))]
  match outerSpecifiers specifiers ++ inner with
  | [] => .empty
  | parts => commas parts ++ text " from "

def exportClause (span : Span) (specifiers : List ExportSpecifier) : Layout :=
  let named := specifiers.filter ExportSpecifier.isNamed
  let outer := specifiers.filter fun specifier => !specifier.isNamed
  let inner := if named.isEmpty && !outer.isEmpty then []
    else [braces span (named.map fun specifier => (specifier.span, specifier.layout))]
  commas (outer.map ExportSpecifier.layout ++ inner)

def Item.declaration : Item → Layout
  | .stmt s => s.layout
  | .importDecl span phase specifiers source =>
    text "import " ++ phase.layout ++ importClause span specifiers ++ source.layout ++ text ";"
  | .exportDecl _ d => text "export " ++ d.layout
  | .exportNamed span specifiers none => text "export " ++ exportClause span specifiers ++ text ";"
  | .exportNamed span specifiers (some source) =>
    text "export " ++ exportClause span specifiers ++ text " from " ++ source.layout ++ text ";"
  | .exportAll _ source => text "export * from " ++ source.layout ++ text ";"
  | .exportDefaultFunction _ name fn => text "export default " ++ (Expr.function name fn).layout
  | .exportDefaultClass _ name cls => text "export default " ++ (Expr.classExpr name cls).layout
  | .exportDefaultExpr _ value =>
    text "export default " ++ followed value.layout value.span ++ text ";"

def Item.layout (item : Item) : Layout :=
  match item with
  | .stmt s => leading s.span.lo ++ s.layout ++ trailing s.span.hi
  | _ => leading item.span.lo ++ item.declaration ++ trailing item.span.hi ++ line

/-- An item of a script, which is a statement. -/
def Item.scriptLayout : Item → Layout
  | .stmt s => s.layout
  | item => item.layout

namespace Program

def layout (program : Program) : Layout :=
  leading program.span.lo ++
    (match program.shebang with
      | some shebang => text "#!" ++ text shebang ++ line
      | none => .empty) ++
    concat (program.items.map (match program.kind with
      | .module => Item.layout
      | .script => Item.scriptLayout)) ++
    trailing program.span.hi

/-- The text of a program, and the comments that were not printed with it. -/
def print (program : Program) (comments : Comments) : String × Comments :=
  let w := Writer.run { comments := comments } program.layout
  (w.written, w.comments)

/-- The text of a program whose source is not known: its positions are cleared first, and there
are no comments. -/
def printDetached (program : Program) : String :=
  (program.cleared.print {}).1

end Program

end GrammarEmbed.Ast
