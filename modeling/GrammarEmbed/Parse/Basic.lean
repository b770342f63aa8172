import GrammarEmbed.Token.Lexer
import GrammarEmbed.Ast.Spans

/-!
The reader of programs: its state, and the steps that every production is made of. A fault either
stops the reader or is reported and passed over; reported faults are kept in order.
-/

namespace GrammarEmbed.Parse

open Ast (Span)

structure Context where
  isModule : Bool := false
  strict : Bool := false
  /-- Whether `in` is an operator. -/
  allowIn : Bool := false
  allowSuper : Bool := false
  allowBreak : Bool := false
  allowContinue : Bool := false
  inFunction : Bool := false
  inOrdinaryFunction : Bool := false
  inAsync : Bool := false
  inGenerator : Bool := false
  inParameters : Bool := false
  inClass : Bool := false
  inField : Bool := false
  inStaticBlock : Bool := false
  inLoopHead : Bool := false
  inAwaitLoopHead : Bool := false
deriving Repr, Inhabited

namespace Context

/-- Reserved words that no mode frees. -/
def alwaysReserved : List String :=
  ["null", "true", "false", "break", "case", "catch", "continue", "debugger", "default", "do",
    "export", "else", "finally", "for", "function", "if", "return", "switch", "throw", "try", "var",
    "const", "while", "with", "new", "this", "super", "class", "extends", "import", "in",
    "instanceof", "typeof", "void", "delete", "enum"]

/-- Words that strict mode reserves. -/
def strictlyReserved : List String :=
  ["implements", "package", "protected", "interface", "private", "public"]

/-- Whether a word names nothing here. -/
def isReserved (context : Context) (word : String) : Bool :=
  if word == "let" then context.strict
  else if word == "await" then context.inAsync || context.inStaticBlock || context.strict
  else if word == "yield" then context.inGenerator || context.strict
  else alwaysReserved.contains word || (context.strict && strictlyReserved.contains word)

def isName (context : Context) : Token → Bool
  | .word text _ => !context.isReserved text
  | .name _ => true
  | _ => false

end Context

structure State where
  lexer : Lexer
  /-- Tokens already read, next first. -/
  ahead : List Lexed := []
  /-- The token before the next. -/
  prev : Span := ⟨1, 1⟩
  context : Context := {}
  /-- Reported faults, newest first. -/
  faults : List SourceError := []
  /-- Faults that count only if the program is a module, newest first. -/
  deferred : List SourceError := []
  labels : List String := []
  /-- Where an arrow function may start. -/
  arrowStart : Option Nat := none
  /-- Whether something was found that only modules have. -/
  sawModuleItem : Bool := false
  /-- Commas before a closing bracket, by where the literal starts. -/
  trailingCommas : List (Nat × Span) := []
  /-- No loop takes more turns than this. -/
  limit : Nat

/-- A reader of part of a program; it keeps its state when it fails. -/
abbrev Parser := EStateM SourceError State

def throwAt {α : Type} (place : Nat) (fault : Fault) : Parser α :=
  throw ⟨place, fault⟩

/-- Reports a fault and goes on. -/
def report (place : Nat) (fault : Fault) : Parser Unit :=
  modify fun s => { s with faults := ⟨place, fault⟩ :: s.faults }

/-- Keeps a notice, or puts it off until the program proves to be a module. -/
def note (notice : Notice) : Parser Unit :=
  modify fun s =>
    let counts := match notice.scope with
      | .always => true
      | .strict => s.context.strict || s.context.isModule
      | .module => s.context.isModule
    if counts then { s with faults := notice.error :: s.faults }
    else { s with deferred := notice.error :: s.deferred }

def reportInModule (place : Nat) (fault : Fault) : Parser Unit :=
  note ⟨.module, ⟨place, fault⟩⟩

/-- Makes the program a module; faults put off so far count now. -/
def enterModule : Parser Unit :=
  modify fun s =>
    if s.context.isModule then s
    else { s with
      context := { s.context with isModule := true, strict := true }
      faults := s.deferred ++ s.faults
      deferred := [] }

/-- Reads one more token. A reserved word may not be written with escapes. -/
def readToken : Parser Lexed := do
  let s ← get
  let (lexed, notices, lexer) := s.lexer.next
  set { s with lexer }
  notices.forM note
  match lexed.token with
  | .word text true =>
    if s.context.isReserved text then
      let error : SourceError := ⟨lexed.span.lo, .escapedReservedWord text⟩
      return { lexed with token := .bad error lexed.span.hi }
    else return lexed
  | _ => return lexed

/-- The next token. An end is looked for again each time. -/
def cur : Parser Lexed := do
  match (← get).ahead with
  | lexed :: _ => return lexed
  | [] =>
    let lexed ← readToken
    unless lexed.isEof do modify fun s => { s with ahead := [lexed] }
    return lexed

def peek : Parser Lexed := do
  let first ← cur
  if first.isEof then return first
  match (← get).ahead with
  | _ :: second :: _ => return second
  | _ =>
    let second ← readToken
    unless second.isEof do modify fun s => { s with ahead := [first, second] }
    return second

def bump : Parser Lexed := do
  let lexed ← cur
  modify fun s => { s with ahead := s.ahead.tail, prev := lexed.span }
  return lexed

/-- Where a fault is placed: at the next token if that has been looked at and is there, else at the
last one. -/
def curSpan : Parser Span := do
  let s ← get
  return match s.ahead with
    | lexed :: _ => lexed.span
    | [] => s.prev

def curPos : Parser Nat := do
  let lexed ← cur
  if lexed.isEof then return (← get).prev.hi else return lexed.span.lo

def spanFrom (start : Nat) : Parser Span := do
  return ⟨start, (← get).prev.hi⟩

/-- Throws a fault. If the next token is none, what is wrong with it is reported first. -/
def failAt {α : Type} (place : Nat) (fault : Fault) : Parser α := do
  match (← cur).token with
  | .bad error _ =>
    discard bump
    modify fun s => { s with faults := error :: s.faults }
    throwAt place fault
  | _ => throwAt place fault

def fail {α : Type} (fault : Fault) : Parser α := do
  failAt (← curSpan).lo fault

def failUnexpected {α : Type} (want : String) : Parser α := do
  let got := (← cur).token.describe
  fail (.unexpected got want)

def required : Parser Lexed := do
  let lexed ← cur
  match lexed.token with
  | .bad error _ =>
    discard bump
    throw error
  | .eof => throwAt lexed.span.lo .endOfText
  | _ => return lexed

def failExpected {α : Type} (want : String) : Parser α := do
  let got := (← cur).token.describe
  fail (.expected want got)

def atMark (text : String) : Parser Bool := return (← cur).isMark text

def atWord (text : String) : Parser Bool := return (← cur).isWord text

def atEof : Parser Bool := return (← cur).isEof

def peekMark (text : String) : Parser Bool := return (← peek).isMark text

def peekWord (text : String) : Parser Bool := return (← peek).isWord text

def eatMark (text : String) : Parser Bool := do
  if ← atMark text then
    discard bump
    return true
  else return false

def eatWord (text : String) : Parser Bool := do
  if ← atWord text then
    discard bump
    return true
  else return false

def expectMark (text : String) : Parser Unit := do
  unless ← eatMark text do
    failExpected text

def expectWord (text : String) : Parser Unit := do
  unless ← eatWord text do
    failExpected text

/-- Whether a statement may end here: before a semicolon or closing brace, at the end of the text,
and where a line ended. -/
def atSemicolon : Parser Bool := do
  let lexed ← cur
  return lexed.isMark ";" || lexed.isMark "\x7d" || lexed.isEof || lexed.afterLine

def eatSemicolon : Parser Bool := do
  if ← eatMark ";" then return true else atSemicolon

def expectSemicolon : Parser Unit := do
  unless ← eatSemicolon do
    failExpected ";"

def afterLine : Parser Bool := return (← cur).afterLine

def atName : Parser Bool := do
  let lexed ← cur
  return (← get).context.isName lexed.token

def peekName : Parser Bool := do
  let lexed ← peek
  return (← get).context.isName lexed.token

/-- Reads a part in other surroundings. -/
def within {α : Type} (change : Context → Context) (part : Parser α) : Parser α := fun s =>
  match part { s with context := change s.context } with
  | .ok a s' => .ok a { s' with context := s.context }
  | .error e s' => .error e { s' with context := s.context }

/-- Reads a part to which labels and arrow heads outside mean nothing. -/
def apart {α : Type} (part : Parser α) : Parser α := fun s =>
  let back (s' : State) : State :=
    { s' with
      labels := s.labels
      arrowStart := s.arrowStart
      sawModuleItem := s.sawModuleItem
      trailingCommas := s.trailingCommas }
  match part { s with labels := [], arrowStart := none, sawModuleItem := false,
                      trailingCommas := [] } with
  | .ok a s' => .ok a (back s')
  | .error e s' => .error e (back s')

/-- Reads a part, or what to do instead of it. -/
def recovering {α : Type} (part : Parser α) (instead : SourceError → Parser α) :
    Parser α := fun s =>
  match part s with
  | .ok a s' => .ok a s'
  | .error e s' => instead e s'

def withIn {α : Type} (part : Parser α) : Parser α :=
  within (fun context => { context with allowIn := true }) part

/-- Takes turns until one ends, at most as many as given. -/
def turns {α β : Type} (turn : α → Parser (α ⊕ β)) : Nat → α → Parser β
  | 0, _ => do throwAt (← get).prev.lo .tooDeep
  | limit + 1, a => do
    match ← turn a with
    | .inl a => turns turn limit a
    | .inr b => return b

def looping {α β : Type} (start : α) (turn : α → Parser (α ⊕ β)) : Parser β := do
  turns turn (← get).limit start

def many {α : Type} (item : Parser (Option α)) : Parser (List α) := do
  let found ← looping ([] : List α) fun found => do
    match ← item with
    | some a => return .inl (a :: found)
    | none => return .inr found
  return found.reverse

/-- The parts of the grammar that contain each other. -/
inductive Goal where
  | assign
  | unary
  /-- What follows an operand, as far as its operators bind more tightly than `above`. -/
  | operators (left : Ast.Expr) (above : Nat)
  /-- A member access, perhaps behind `new`. -/
  | member
  | pattern
  | statement (allowDecl atTop : Bool)
  | block (allowDirectives : Bool)

@[reducible] def Goal.Out : Goal → Type
  | .assign | .unary | .operators .. | .member => Ast.Expr
  | .pattern => Ast.Pattern
  | .statement .. => Ast.Stmt
  | .block _ => Ast.Block

/-- The readers of all parts, for use inside each other. -/
abbrev Self := (goal : Goal) → Parser goal.Out

end GrammarEmbed.Parse
