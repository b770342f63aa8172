import GrammarEmbed.Parse.Expr

namespace GrammarEmbed.Parse

open Ast

def followsLet (lexed : Lexed) : Bool :=
  match lexed.token with
  | .mark "[" | .mark "\x7b" => true
  | .word text _ => isPlainWord text || text == "let" || text == "yield" || text == "await"
  | .name _ => true
  | _ => false

/-- The value of a variable. A pattern needs one, and in strict mode a constant. -/
def declaratorValue (self : Self) (start : Nat) (kind : VarKind) (target : Pattern) :
    Parser (Option Expr) := do
  if ← eatMark "=" then
    return some (← self .assign)
  else if kind == .const && (← get).context.strict then
    report start .constWithoutValue
    return none
  else match target with
    | .ident _ => return none
    | _ => failAt start .patternWithoutValue

def declarator (self : Self) (inLoop : Bool) (kind : VarKind) : Parser Declarator := do
  let start ← curPos
  if kind != .var then refuseLet
  let target ← self .pattern
  let lexed ← cur
  let value ← if inLoop && (lexed.isWord "in" || lexed.isWord "of") then pure none
    else declaratorValue self start kind target
  return .mk (← spanFrom start) target value

/-- Passes over what stands where a declaration should have ended. -/
def skipToSemicolon (self : Self) : Parser Unit := do
  recovering (discard (expression self)) fun _ => return
  looping () fun _ => do
    if ← eatSemicolon then return .inr ()
    discard bump
    match (← cur).token with
    | .bad .. => return .inr ()
    | _ => return .inl ()

def varKind? (lexed : Lexed) : Option VarKind :=
  match lexed.token with
  | .word "var" _ => some .var
  | .word "let" _ => some .let
  | .word "const" _ => some .const
  | _ => none

def varDeclaration (self : Self) (inLoop : Bool) : Parser VarDecl := do
  let word ← bump
  let kind := (varKind? word).getD .var
  let includeIn := kind != .var || !inLoop
  let found ← looping ([] : List Declarator) fun found => do
    if !found.isEmpty then
      unless ← eatMark "," do return .inr found
    let lexed ← cur
    if lexed.isMark ";" || lexed.isEof then
      let prev := (← get).prev
      report (if found.isEmpty then prev.hi else prev.lo) .trailingComma
      return .inr found
    let next ← within
      (fun context => if includeIn then { context with allowIn := true } else context)
      (declarator self inLoop kind)
    return .inl (next :: found)
  unless inLoop do
    unless ← eatSemicolon do
      report (← curSpan).lo .expectedSemicolon
      skipToSemicolon self
  return .mk (← spanFrom word.span.lo) kind found.reverse

def atUsing : Parser Bool := do
  if ← atWord "using" then
    if (← peek).afterLine then return false else peekName
  else return false

/-- A declaration of resources from `using` on, which is not allowed. -/
def usingDeclaration (self : Self) (start : Nat) : Parser Stmt := do
  discard bump
  let found ← looping ([] : List Declarator) fun found => do
    if !found.isEmpty then
      unless ← eatMark "," do return .inr found
    let lexed ← cur
    if lexed.isMark ";" || lexed.isEof then
      report (← get).prev.lo .trailingComma
      return .inr found
    return .inl ((← declarator self false .var) :: found)
  report start .usingNotEnabled
  return .decl (.var (.mk (← spanFrom start) .const found.reverse))

def loopBody (self : Self) : Parser Stmt :=
  within (fun context => { context with allowBreak := true, allowContinue := true,
                                        inLoopHead := false, inAwaitLoopHead := false })
    (self (.statement false false))

def condition (self : Self) : Parser Expr := do
  expectMark "("
  let test ← withIn (expression self)
  expectMark ")"
  return test

def ifStatement (self : Self) : Parser Stmt := do
  let start ← curPos
  discard bump
  let test ← condition self
  let consequent ← self (.statement false false)
  let alternate ← if ← eatWord "else" then some <$> self (.statement false false) else pure none
  return .ifElse (← spanFrom start) test consequent alternate

def switchCase (self : Self) (start : Nat) (test : Option Expr) : Parser SwitchCase := do
  expectMark ":"
  let body ← many do
    let lexed ← cur
    if lexed.isEof || lexed.isMark "\x7d" || lexed.isWord "case" || lexed.isWord "default" then
      return none
    else some <$> self (.statement true false)
  return .mk (← spanFrom start) test body

def switchStatement (self : Self) : Parser Stmt := do
  let start ← curPos
  discard bump
  let discriminant ← condition self
  expectMark "\x7b"
  let cases ← within (fun context => { context with allowBreak := true }) do
    let (cases, _) ← looping (([], false) : List SwitchCase × Bool) fun (cases, hasDefault) => do
      let caseStart ← curPos
      if ← eatWord "case" then
        let test ← withIn (expression self)
        return .inl ((← switchCase self caseStart (some test)) :: cases, hasDefault)
      else if ← eatWord "default" then
        if hasDefault then fail .repeatedDefault
        return .inl ((← switchCase self caseStart none) :: cases, true)
      else return .inr (cases, hasDefault)
    pure cases.reverse
  expectMark "\x7d"
  return .switch (← spanFrom start) discriminant cases

def catchClause (self : Self) : Parser (Option CatchClause) := do
  let start ← curPos
  if ← eatWord "catch" then
    let param ← if ← eatMark "(" then do
        let param ← self .pattern
        expectMark ")"
        pure (some param)
      else pure none
    let body ← self (.block false)
    return some (.mk (← spanFrom start) param body)
  else return none

def finallyBlock (self : Self) : Parser (Option Block) := do
  if ← eatWord "finally" then some <$> self (.block false) else return none

def tryStatement (self : Self) : Parser Stmt := do
  let start ← curPos
  discard bump
  let body ← self (.block false)
  let place ← curPos
  let handler ← catchClause self
  let finalizer ← finallyBlock self
  if handler.isNone && finalizer.isNone then report place .expectedSemicolon
  return .try (← spanFrom start) body handler finalizer

inductive LoopHead where
  | counted (init : ForHead) (test update : Option Expr)
  | keys (head : ForHead) (object : Expr)
  | values (head : ForHead) (iterable : Expr)

def countedHead (self : Self) (init : ForHead) : Parser LoopHead := do
  let test ← if ← eatMark ";" then pure none
    else do
      let test ← withIn (expression self)
      expectMark ";"
      pure (some test)
  let update ← if ← atMark ")" then pure none else some <$> withIn (expression self)
  return .counted init test update

def eachHead (self : Self) (head : ForHead) : Parser LoopHead := do
  let word ← bump
  if word.isWord "of" then return .values head (← withIn (self .assign))
  else return .keys head (← withIn (expression self))

/-- A loop over keys or values declares one variable, without a value of its own. -/
def checkLoopVariables (isOf : Bool) : List Declarator → Parser Unit
  | [.mk span _ value] => do
    if value.isSome && (isOf || (← get).context.strict) then report span.lo .loopVariableValue
  | declarators => (declarators.drop 1).forM fun
    | .mk span _ _ => report span.lo .severalLoopVariables

def loopHead (self : Self) : Parser LoopHead := do
  let lexed ← cur
  let isDeclaration ← match varKind? lexed with
    | some .let => followsLet <$> peek
    | some _ => pure true
    | none => pure false
  if isDeclaration then
    let .mk span kind declarators ← varDeclaration self true
    let next ← cur
    if next.isWord "of" || next.isWord "in" then
      checkLoopVariables (next.isWord "of") declarators
      return ← eachHead self (.decl (.mk span kind declarators))
    expectMark ";"
    return ← countedHead self (.decl (.mk span kind declarators))
  if ← eatMark ";" then return ← countedHead self .none
  let init ← within (fun context => { context with allowIn := false }) (expression self)
  let next ← cur
  if next.isWord "of" || next.isWord "in" then
    let target ← toPattern .target init
    return ← eachHead self (.pattern target)
  expectMark ";"
  countedHead self (.pattern (.expr init))

def forStatement (self : Self) : Parser Stmt := do
  let start ← curPos
  discard bump
  let awaitPlace ← curPos
  let isAwait ← eatWord "await"
  expectMark "("
  let head ← within (fun context => { context with inLoopHead := true, inAwaitLoopHead := isAwait })
    (loopHead self)
  expectMark ")"
  let body ← loopBody self
  let span ← spanFrom start
  match head with
  | .counted init test update =>
    if isAwait then failAt awaitPlace .awaitLoop
    return .for span init test update body
  | .keys head object =>
    if isAwait then failAt awaitPlace .awaitLoop
    return .forIn span head object body
  | .values head iterable => return .forOf span isAwait head iterable body

def jumpStatement : Parser Stmt := do
  let word ← bump
  let isBreak := word.isWord "break"
  let label ← if ← eatSemicolon then pure none
    else do
      let context := (← get).context
      let label ← identifier (!context.inGenerator) (!context.inAsync)
      expectSemicolon
      pure (some label)
  let span ← spanFrom word.span.lo
  let s ← get
  let isUnknown := label.any fun id => !s.labels.contains id.name
  if isBreak then
    if isUnknown then report span.lo .breakLabel
    else if !s.context.allowBreak then report span.lo .breakOutside
    return .break span label
  else
    if !s.context.allowContinue then report span.lo .continueOutside
    else if isUnknown then report span.lo .continueLabel
    return .continue span label

def returnStatement (self : Self) : Parser Stmt := do
  let word ← bump
  let value ← if ← atSemicolon then pure none else some <$> withIn (expression self)
  expectSemicolon
  let span ← spanFrom word.span.lo
  unless (← get).context.inFunction do report span.lo .returnOutside
  return .return span value

def throwStatement (self : Self) : Parser Stmt := do
  let word ← bump
  if ← afterLine then fail .lineBreakAfterThrow
  let value ← withIn (expression self)
  expectSemicolon
  return .throw (← spanFrom word.span.lo) value

def labelled (self : Self) (label : Ident) : Parser Stmt :=
  within (fun context => { context with allowBreak := true }) do
    let isRepeated := (← get).labels.contains label.name
    modify fun s => { s with labels := label.name :: s.labels }
    let start ← curPos
    let body ← if ← atWord "function" then do
        let (name, fn) ← functionFrom self start false false true
        let .mk span _ _ isGenerator isAsync := fn
        if (← get).context.strict then report span.lo .labelledFunctionInStrictMode
        if isGenerator || isAsync then report span.lo .labelledGenerator
        pure (Stmt.decl (.function (name.getD ⟨span, ""⟩) fn))
      else self (.statement false false)
    if isRepeated then report label.span.lo (.repeatedLabel label.name)
    modify fun s => { s with labels := s.labels.erase label.name }
    return .labeled (← spanFrom label.span.lo) label body

def functionDeclaration (self : Self) (isAsync : Bool) : Parser Decl := do
  let start ← curPos
  if isAsync then discard bump
  let (name, fn) ← functionFrom self start isAsync false true
  return .function (name.getD ⟨.none, ""⟩) fn

def classDeclaration (self : Self) : Parser Decl := do
  let start ← curPos
  let (name, cls) ← classFrom self start (leftHandSide self) true
  return .class (name.getD ⟨.none, ""⟩) cls

def atAsyncFunction : Parser Bool := do
  if ← atWord "async" then
    let second ← peek
    return second.isWord "function" && !second.afterLine
  else return false

def expressionStatement (self : Self) : Parser Stmt := do
  let start ← curPos
  let value ← withIn (expression self)
  let label? := match value with
    | .ident id => some id
    | _ => none
  if let some id := label? then
    if ← eatMark ":" then return ← labelled self id
  if ← eatSemicolon then return .expr (← spanFrom start) value
  let lexed ← cur
  if lexed.token.isBinaryMark then
    report lexed.span.lo .expectedSemicolon
    let value ← self (.operators value 0)
    return .expr (← spanFrom start) value
  fail .expectedStatementEnd

/-- A statement that starts with `await`, which may declare resources. -/
def awaitStatement (self : Self) (allowDecl atTop : Bool) : Parser Stmt := do
  let start ← curPos
  if atTop then modify fun s => { s with sawModuleItem := true }
  let isUsing ← if allowDecl || atTop then peekWord "using" else pure false
  if isUsing then
    let word ← bump
    if ← atUsing then return ← usingDeclaration self start
    let value ← awaitRest self word.span
    let value ← withIn (self (.operators value 0))
    discard eatSemicolon
    return .expr (← spanFrom start) value
  else expressionStatement self

/-- `import` and `export` inside a statement: only the forms that are expressions. -/
def nestedImport (self : Self) : Parser Stmt := do
  let start ← curPos
  if (← atWord "import") && ((← peekMark "(") || (← peekMark ".")) then
    let value ← expression self
    discard eatSemicolon
    return .expr (← spanFrom start) value
  else fail .moduleDeclarationOutside

/-- A statement. Declarations count where `allowDecl` says so. -/
def statement (self : Self) (allowDecl atTop : Bool) : Parser Stmt := do
  let start ← curPos
  let lexed ← required
  match lexed.token with
  | .word "import" _ | .word "export" _ => nestedImport self
  | .word "await" _ => awaitStatement self allowDecl atTop
  | .word "break" _ | .word "continue" _ => jumpStatement
  | .word "debugger" _ =>
    discard bump
    expectSemicolon
    return .debugger (← spanFrom start)
  | .word "do" _ =>
    discard bump
    let body ← loopBody self
    expectWord "while"
    let test ← condition self
    discard eatSemicolon
    return .doWhile (← spanFrom start) body test
  | .word "for" _ => forStatement self
  | .word "function" _ =>
    unless allowDecl do report start .declarationNotAllowed
    return .decl (← functionDeclaration self false)
  | .word "class" _ =>
    unless allowDecl do report start .declarationNotAllowed
    return .decl (← classDeclaration self)
  | .word "if" _ => ifStatement self
  | .word "return" _ => returnStatement self
  | .word "switch" _ => switchStatement self
  | .word "throw" _ => throwStatement self
  | .word "catch" _ =>
    report start .expectedSemicolon
    discard (recovering (catchClause self) fun _ => return none)
    discard (recovering (finallyBlock self) fun _ => return none)
    return .empty lexed.span
  | .word "finally" _ =>
    report start .expectedSemicolon
    discard (recovering (finallyBlock self) fun _ => return none)
    return .empty lexed.span
  | .word "try" _ => tryStatement self
  | .word "with" _ =>
    reportInModule start .withInStrictMode
    discard bump
    let object ← condition self
    let body ← within (fun context => { context with inFunction := true })
      (self (.statement false false))
    return .with (← spanFrom start) object body
  | .word "while" _ =>
    discard bump
    let test ← condition self
    let body ← loopBody self
    return .while (← spanFrom start) test body
  | .word "var" _ => return .decl (.var (← varDeclaration self false))
  | .word "const" _ =>
    if allowDecl then return .decl (.var (← varDeclaration self false))
    else expressionStatement self
  | .word "let" _ =>
    if allowDecl && followsLet (← peek) then return .decl (.var (← varDeclaration self false))
    else expressionStatement self
  | .word "using" _ =>
    if allowDecl && (← atUsing) then usingDeclaration self start else expressionStatement self
  | .mark "\x7b" => return .block (← self (.block false))
  | .mark ";" =>
    discard bump
    return .empty lexed.span
  | _ =>
    if ← atAsyncFunction then return .decl (← functionDeclaration self true)
    else expressionStatement self

def isStrictDirective : Stmt → Bool
  | .expr _ (.literal (.str lit)) =>
    lit.raw == some "\"use strict\"" || lit.raw == some "'use strict'"
  | _ => false

def statementIn {α : Type} (item : Parser α) (isClosed : Bool) : Parser (Option α) := do
  if ← atEof then
    if isClosed then report (← curSpan).lo (.expected "\x7d" "<eof>")
    return none
  else if isClosed && (← atMark "\x7d") then
    discard bump
    return none
  else some <$> item

/-- Statements up to a closing brace, or the end of the text if nothing closes them. The first one
may make those behind it strict. -/
def statements {α : Type} (item : Parser α) (isDirective : α → Bool) (isClosed : Bool) :
    Parser (List α) := do
  match ← statementIn item isClosed with
  | none => return []
  | some first =>
    if isDirective first then
      modify fun s => { s with context := { s.context with strict := true } }
    return first :: (← many (statementIn item isClosed))

def block (self : Self) (allowDirectives : Bool) : Parser Block := do
  let start ← curPos
  expectMark "\x7b"
  let isDirective := if allowDirectives then isStrictDirective else fun _ => false
  let stmts ← within id (statements (self (.statement true false)) isDirective true)
  return .mk (← spanFrom start) stmts

end GrammarEmbed.Parse
