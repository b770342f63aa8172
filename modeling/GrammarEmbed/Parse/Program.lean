import GrammarEmbed.Parse.Stmt

namespace GrammarEmbed.Parse

open Ast

def fromClause : Parser StringLit := do
  expectWord "from"
  stringToken "a string literal"

def moduleName : Parser ModuleName := do
  let lexed ← cur
  match lexed.token with
  | .str .. => return .str (← stringToken "a string literal")
  | .word .. | .name _ => return .ident (← anyName)
  | _ => failUnexpected "identifier or string"

def importedBinding : Parser Ident :=
  within (fun context => { context with inAsync := false, inGenerator := false }) bindingName

def importSpecifier : Parser ImportSpecifier := do
  let start ← curPos
  match ← moduleName with
  | .ident id =>
    if ← eatWord "as" then
      let name ← bindingName
      return .named ⟨start, name.span.hi⟩ name (some (.ident id))
    return .named (← spanFrom start) id none
  | .str lit =>
    if ← eatWord "as" then
      let name ← bindingName
      return .named ⟨start, name.span.hi⟩ name (some (.str lit))
    failAt lit.span.lo (.importedString lit.value)

def bracedList {α : Type} (item : Parser α) : Parser (List α) := do
  let found ← looping ([] : List α) fun found => do
    if ← atEof then return .inr found
    if ← atMark "\x7d" then return .inr found
    let next ← item
    if ← atMark "\x7d" then return .inr (next :: found)
    expectMark ","
    return .inl (next :: found)
  expectMark "\x7d"
  return found.reverse

def importedNames : Parser (List ImportSpecifier) := do
  let start ← curPos
  if ← eatMark "*" then
    expectWord "as"
    let name ← importedBinding
    return [.namespace (← spanFrom start) name]
  else if ← eatMark "\x7b" then bracedList importSpecifier
  else return []

def importPhase? (word : String) : Option ImportPhase :=
  if word == "source" then some .source
  else if word == "defer" then some .defer
  else none

/-- What stands behind the default import. -/
def importAfterDefault (name : Ident) : Parser (List ImportSpecifier) := do
  if ← atWord "from" then return [.default name]
  else
    expectMark ","
    return .default name :: (← importedNames)

/-- The specifiers behind a word that may be a phase: it is one if other names follow. -/
def importAfterPhase (word : Ident) (phase : ImportPhase) :
    Parser (ImportPhase × List ImportSpecifier) := do
  let lexed ← cur
  if lexed.isMark "*" || lexed.isMark "\x7b" then return (phase, ← importedNames)
  let isName ← if lexed.isWord "from" then peekWord "from" else atName
  if isName then return (phase, ← importAfterDefault (← importedBinding))
  else return (.evaluation, ← importAfterDefault word)

def importDeclaration : Parser Item := do
  let start ← curPos
  discard bump
  if (← cur).isStr then
    let source ← stringToken "a string literal"
    expectSemicolon
    return .importDecl (← spanFrom start) .evaluation [] source
  let (phase, specifiers) ← do
    if ← atName then
      let first ← importedBinding
      match importPhase? first.name with
      | some phase => importAfterPhase first phase
      | none => pure (.evaluation, ← importAfterDefault first)
    else pure (.evaluation, ← importedNames)
  let source ← fromClause
  expectSemicolon
  return .importDecl (← spanFrom start) phase specifiers source

def exportSpecifier : Parser ExportSpecifier := do
  let start ← curPos
  let name ← moduleName
  let exported ← if ← eatWord "as" then some <$> moduleName else pure none
  return .named (← spanFrom start) name exported

/-- Words that cannot be exported by that name, because nothing is called so. -/
def neverExported : List String :=
  ["break", "case", "catch", "class", "const", "continue", "debugger", "default", "delete", "do",
    "else", "enum", "export", "extends", "false", "finally", "for", "function", "if", "import",
    "in", "instanceof", "new", "null", "package", "return", "super", "switch", "this", "throw",
    "true", "try", "typeof", "var", "void", "while", "with"]

/-- Without a source module only variables are exported. -/
def checkExported : ExportSpecifier → Parser Unit
  | .namespace span _ => report span.lo (.exportWithoutSource "*")
  | .named _ (.ident id) _ => do
    if neverExported.contains id.name then
      report id.span.lo (.exportWithoutSource id.name)
  | .named _ (.str lit) _ => report lit.span.lo .exportedString

def defaultExport (self : Self) (start : Nat) : Parser Item := do
  if ← atWord "class" then
    let classStart ← curPos
    let (name, cls) ← classFrom self classStart (leftHandSide self) false
    return .exportDefaultClass (← spanFrom start) name cls
  let fnStart ← curPos
  if ← atAsyncFunction then
    discard bump
    let (name, fn) ← functionFrom self fnStart true false false
    return .exportDefaultFunction (← spanFrom start) name fn
  if ← atWord "function" then
    let (name, fn) ← functionFrom self fnStart false false false
    return .exportDefaultFunction (← spanFrom start) name fn
  let value ← withIn (self .assign)
  expectSemicolon
  return .exportDefaultExpr (← spanFrom start) value

def exportedDeclaration (self : Self) : Parser (Option Decl) := do
  let lexed ← cur
  if lexed.isWord "class" then return some (← classDeclaration self)
  if ← atAsyncFunction then return some (← functionDeclaration self true)
  if lexed.isWord "function" then return some (← functionDeclaration self false)
  let isVar ← match varKind? lexed with
    | some .let => followsLet <$> peek
    | some _ => pure true
    | none => pure false
  if isVar then return some (.var (← varDeclaration self false))
  return none

def exportDeclaration (self : Self) : Parser Item := do
  let start ← curPos
  discard bump
  let starStart ← curPos
  if ← eatMark "*" then
    if ← eatWord "as" then
      let name ← moduleName
      let star := ExportSpecifier.namespace (← spanFrom starStart) name
      let source ← fromClause
      expectSemicolon
      return .exportNamed (← spanFrom start) [star] (some source)
    let source ← fromClause
    expectSemicolon
    return .exportAll ⟨start, source.span.hi⟩ source
  if ← eatWord "default" then return ← defaultExport self start
  if let some decl ← exportedDeclaration self then
    return .exportDecl (← spanFrom start) decl
  expectMark "\x7b"
  let specifiers ← bracedList exportSpecifier
  if ← atWord "from" then
    let source ← fromClause
    expectSemicolon
    return .exportNamed (← spanFrom start) specifiers (some source)
  specifiers.forM checkExported
  discard eatSemicolon
  return .exportNamed (← spanFrom start) specifiers none

def item (self : Self) : Parser Item := do
  if ← atWord "import" then
    if (← peekMark "(") || (← peekMark ".") then
      return .stmt (← self (.statement true true))
    enterModule
    importDeclaration
  else if ← atWord "export" then
    enterModule
    exportDeclaration self
  else return .stmt (← self (.statement true true))

/-- Reads one part of the grammar with readers for the parts in it. -/
def part (self : Self) : (goal : Goal) → Parser goal.Out
  | .assign => assign self
  | .unary => unary self
  | .operators left above => operators self left above
  | .member => memberOrNew self (leftHandSide self)
  | .pattern => pattern self
  | .statement allowDecl atTop => statement self allowDecl atTop
  | .block allowDirectives => block self allowDirectives

/-- Reads a part whose nesting is at most `depth`. -/
def nested : (depth : Nat) → (goal : Goal) → Parser goal.Out
  | 0, _ => do throwAt (← get).prev.lo .tooDeep
  | depth + 1, goal => part (fun inner => nested depth inner) goal

def isStrictDirectiveItem : Item → Bool
  | .stmt stmt => isStrictDirective stmt
  | _ => false

def isModuleDeclaration : Item → Bool
  | .stmt _ => false
  | _ => true

/-- Reads a program. It is a module if it declares imports or exports, waits at its top level, or
asks for its own metadata there. -/
def program (self : Self) : Parser Program := do
  let start ← curPos
  let lexed ← cur
  let shebang ← match lexed.token with
    | .shebang text =>
      discard bump
      pure (some text)
    | _ => pure none
  let items ← within id (statements (item self) isStrictDirectiveItem false)
  let isModule := (← get).sawModuleItem || items.any isModuleDeclaration
  if isModule then enterModule
  let span ← spanFrom start
  return { span, kind := if isModule then .module else .script, shebang, items }

/-- Reads a source text. The first fault that stopped the reader is the error; without one, the
first that it reported. -/
def run (source : String) : Except SourceError (Program × Comments) :=
  let lexer := Lexer.ofText source
  let limit := lexer.rest.length + 8
  match program (nested (16 * limit)) { lexer, limit } with
  | .ok program s =>
    match s.faults.getLast? with
    | some error => .error error
    | none => .ok (program, { s.lexer.comments with source := source.toList })
  | .error error _ => .error error

end GrammarEmbed.Parse
