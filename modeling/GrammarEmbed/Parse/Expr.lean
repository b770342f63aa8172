import GrammarEmbed.Parse.Class
import GrammarEmbed.Parse.Cover

namespace GrammarEmbed.Parse

open Ast

def expression (self : Self) : Parser Expr := do
  let start ← curPos
  let first ← self .assign
  if ← atMark "," then
    let more ← many do
      if ← eatMark "," then some <$> self .assign else return none
    return .sequence (← spanFrom start) (first :: more)
  else return first

def argument (self : Self) : Parser Argument := do
  let start ← curPos
  if ← eatMark "..." then
    let dots ← spanFrom start
    return .mk (some dots) (← withIn (self .assign))
  else return .mk none (← self .assign)

/-- Arguments in parentheses. A dynamic import has no comma at the end. -/
def arguments (self : Self) (isImport : Bool) : Parser (List Argument) := do
  let start ← curPos
  expectMark "("
  let found ← looping ([] : List Argument) fun found => do
    if ← atEof then return .inr found
    if ← atMark ")" then return .inr found
    unless found.isEmpty do
      expectMark ","
      if ← atMark ")" then
        if isImport then failAt start .trailingCommaInImport
        return .inr found
    let next ← withIn (argument self)
    return .inl (next :: found)
  expectMark ")"
  return found.reverse

def arrayLiteral (self : Self) : Parser Expr := do
  let start ← curPos
  discard bump
  let elements ← looping ([] : List Element) fun elements => do
    if ← atEof then return .inr elements
    if ← atMark "]" then return .inr elements
    if ← eatMark "," then return .inl (.hole :: elements)
    let next ← withIn (argument self)
    unless ← atMark "]" do
      expectMark ","
      if ← atMark "]" then
        modify fun s => { s with trailingCommas := (start, s.prev) :: s.trailingCommas }
    return .inl (.item next :: elements)
  expectMark "]"
  return .array (← spanFrom start) elements.reverse

/-- A property behind the word `get`, `set` or `async`. -/
def modifiedProperty (self : Self) (start : Nat) (word : String) : Parser Property := do
  let isGenerator ← if word == "async" then eatMark "*" else pure false
  let key ← propertyKey self
  let place := key.span.lo
  if word == "get" then
    let .mk _ _ body _ _ ← methodRest self start false false (checkGetter place)
    return .getter (← spanFrom start) key body
  else if word == "set" then
    let .mk _ params body _ _ ← methodRest self start false false (checkSetter place)
    let params := if 2 ≤ params.length then params.drop 1 else params
    let param := params.headD (.expr (.this .none))
    return .setter (← spanFrom start) key param body
  else
    return .method key (← methodRest self start true isGenerator anyParameters)

def objectProperty (self : Self) : Parser Property := do
  let start ← curPos
  if ← eatMark "..." then
    let dots ← spanFrom start
    return .spread dots (← withIn (self .assign))
  if ← eatMark "*" then
    let key ← propertyKey self
    return .method key (← methodRest self start false true anyParameters)
  let key ← propertyKey self
  if ← eatMark ":" then
    return .keyValue key (← withIn (self .assign))
  if ← atMark "(" then
    return .method key (← methodRest self start false false anyParameters)
  match key with
  | .name id =>
    if ← eatMark "?" then report (← get).prev.lo .questionInProperty
    let lexed ← cur
    if lexed.isMark "=" || lexed.isMark "," || lexed.isMark "\x7d" then
      if ← eatMark "=" then
        let value ← withIn (self .assign)
        return .initialized (← spanFrom start) id value
      else return .shorthand id
    else if id.name == "get" || id.name == "set" || id.name == "async" then
      modifiedProperty self start id.name
    else failUnexpected "... , *,  (, [, :, , ?, = or an identifier"
  | _ => failUnexpected "identifier"

def objectLiteral (self : Self) : Parser Expr := do
  let start ← curPos
  let (properties, comma) ← braced (objectProperty self)
  if let some span := comma then
    modify fun s => { s with trailingCommas := (start, span) :: s.trailingCommas }
  return .object (← spanFrom start) properties

/-- One piece of a template that starts at `start`. Only a tagged template may have escapes that
stand for nothing. -/
def templatePiece (start : Nat) (isTagged : Bool) : Parser Quasi := do
  let s ← get
  match s.lexer.template with
  | none =>
    let stop := s.lexer.pos + byteCount s.lexer.rest
    set { s with lexer := { s.lexer with rest := [], pos := stop } }
    throwAt start .unterminatedTemplate
  | some (quasi, error, notices, lexer) =>
    set { s with lexer, prev := quasi.span }
    notices.forM note
    match error, isTagged with
    | some error, false => throw error
    | _, _ => return quasi

def openSubstitution : Parser Bool := do
  let s ← get
  match s.lexer.rest with
  | '$' :: '\x7b' :: rest =>
    let stop := s.lexer.pos + 2
    set { s with
      lexer := s.lexer.advance (.mark "$\x7b") stop rest
      prev := ⟨s.lexer.pos, stop⟩ }
    return true
  | _ => return false

def template (self : Self) (isTagged : Bool) : Parser (Span × List Quasi × List Expr) := do
  let start ← curPos
  discard bump
  let first ← templatePiece start isTagged
  let (quasis, exprs) ← looping (([first], []) : List Quasi × List Expr) fun (quasis, exprs) => do
    if ← openSubstitution then
      let e ← withIn (expression self)
      expectMark "\x7d"
      let next ← templatePiece start isTagged
      return .inl (next :: quasis, e :: exprs)
    else return .inr (quasis, exprs)
  expectMark "`"
  return (← spanFrom start, quasis.reverse, exprs.reverse)

/-- The flags of a regular expression are known letters, each at most once. -/
def checkFlags (place : Nat) (flags : List Char) : Parser Unit := do
  let known := ['d', 'g', 'i', 'm', 's', 'u', 'v', 'y']
  unless flags.all known.contains do report place .unknownRegexFlags
  if let some flag := known.find? fun flag => 1 < flags.count flag then
    report place (.repeatedRegexFlag flag)

def regexLiteral : Parser Expr := do
  let lexed ← bump
  let s ← get
  let lead := if lexed.isMark "/=" then ['='] else []
  match s.lexer.regex lead with
  | none =>
    set { s with lexer := s.lexer.breakAt lexed }
    discard cur
    fail .expectedExpression
  | some (pattern, flags, lexer) =>
    let span : Span := ⟨lexed.span.lo, lexer.pos⟩
    set { s with lexer, prev := span }
    checkFlags span.lo flags.toList
    return .literal (.regex span pattern flags)

/-- Parenthesised items as parameters of an arrow function. -/
def arrowParameters (comma : Option Span) : List Argument → Parser (List Pattern)
  | [] => return []
  | [.mk (some dots) value] => do
    if isAssignment value then report dots.lo .restWithValue
    if let some comma := comma then report comma.lo .commaAfterRest
    return [.rest value.span (← toPattern .binding value)]
  | .mk (some dots) _ :: more => do
    report dots.lo .restNotLastParameter
    arrowParameters comma more
  | .mk none value :: more => do
    let first ← toPattern .binding value
    return first :: (← arrowParameters comma more)

/-- A module binds no restricted names as parameters of arrow functions that are strict. -/
def checkParameters (params : List Pattern) : Parser Unit := do
  if (← get).context.strict then
    let restricted := (params.flatMap boundNames).filter fun id => isRestricted id.name
    restricted.forM fun id => reportInModule id.span.lo .restrictedBinding

/-- The value of a parenthesised item, which is not spread. -/
def unspread : Argument → Parser Expr
  | .mk (some _) value => failAt value.span.lo .spreadInParens
  | .mk none value => return value

/-- Whether the word `async` comes next and something that could be a function behind it. -/
def atAsync : Parser Bool := do
  if ← atWord "async" then
    let second ← peek
    return second.isMark "(" || second.word?.isSome
  else return false

/-- An arrow behind an item in parentheses takes all items so far as parameters, if the first is a
name; the function becomes a further item. -/
def arrowBehindItem (self : Self) (start : Nat) (isAsync : Bool) (items : List Argument) :
    Parser (List Argument) := do
  unless ← eatMark "=>" do return items
  match items.getLast? with
  | some (.mk _ (.ident _)) =>
    let params ← arrowParameters none items.reverse
    checkParameters params
    let body ← arrowBody self isAsync params
    return .mk none (.arrow (← spanFrom start) isAsync params body) :: items
  | _ => return items

/-- Items in parentheses, and the comma before the closing one. -/
def parenItems (self : Self) : Parser (List Argument × Option Span) := do
  expectMark "("
  let (items, comma) ← looping (([], none) : List Argument × Option Span) fun (items, comma) => do
    if ← atEof then return .inr (items, comma)
    if ← atMark ")" then return .inr (items, comma)
    let isAsync ← atAsync
    let start ← curPos
    modify fun s => { s with arrowStart := some start }
    let next ← withIn (argument self)
    let items ← arrowBehindItem self start isAsync (next :: items)
    if ← atMark ")" then return .inl (items, comma)
    expectMark ","
    let prev := (← get).prev
    return .inl (items, if ← atMark ")" then some prev else comma)
  expectMark ")"
  return (items.reverse, comma)

def checkParenItem : Argument → Parser Unit
  | .mk _ (.object _ properties) =>
    properties.forM fun
      | .initialized span .. => report span.lo .assignmentInObject
      | _ => return
  | _ => return

/-- An arrow function whose parameters stood in parentheses. A block that ends it ends its
statement too, so no operator may follow. -/
def finishedArrow (self : Self) (body : ArrowBody) (arrow : Expr) : Parser Expr := do
  match body with
  | .expr _ => return arrow
  | .block _ =>
    let lexed ← cur
    if lexed.token.isBinaryMark then
      report lexed.span.lo .expectedSemicolon
      self (.operators arrow 0)
    else return arrow

/-- Parentheses: an expression in them, the head of an arrow function, or, behind `async`, the
arguments of a call. -/
def parenthesized (self : Self) (canBeArrow : Bool) (async : Option Span) : Parser Expr := do
  let start ← match async with
    | some span => pure span.lo
    | none => curPos
  let (items, comma) ← withIn (parenItems self)
  if ← atMark "=>" then
    if ← afterLine then failAt start .lineBreakBeforeArrow
    unless canBeArrow do failAt start .arrowNotAllowed
    expectMark "=>"
    let params ← arrowParameters comma items
    checkParameters params
    let body ← arrowBody self async.isSome params
    return ← finishedArrow self body (.arrow (← spanFrom start) async.isSome params body)
  items.forM checkParenItem
  if let some span := async then
    return .call (← spanFrom start) (.ident ⟨span, "async"⟩) items
  if items.isEmpty then failAt start .emptyParens
  let values ← items.mapM unspread
  match values with
  | [value] => return .paren (← spanFrom start) value
  | first :: _ =>
    let last := values.getLastD first
    return .paren (← spanFrom start) (.sequence (first.span.through last.span) values)
  | [] => failAt start .emptyParens

/-- A name, or an arrow function whose only parameter it is. -/
def nameOrArrow (self : Self) (start : Nat) (canBeArrow : Bool) : Parser Expr := do
  let context := (← get).context
  let id ← identifier (!context.inGenerator) (!context.inAsync)
  if canBeArrow && id.name == "async" && !(← afterLine) && (← atName) then
    if context.inLoopHead && (← atWord "of") then
      unless ← peekMark "=>" do
        unless context.inAwaitLoopHead do report (← get).prev.lo .asyncLoopVariable
        return .ident id
    let param ← bindingName
    expectMark "=>"
    let params := [Pattern.ident param]
    let body ← arrowBody self true params
    return .arrow (← spanFrom start) true params body
  else if canBeArrow && !(← afterLine) && (← atMark "=>") then
    discard bump
    let params := [Pattern.ident id]
    checkParameters params
    let body ← arrowBody self false params
    return .arrow (← spanFrom start) false params body
  else return .ident id

/-- An expression that no operator belongs to. -/
def primary (self : Self) (superclass : Parser Expr) : Parser Expr := do
  let start ← curPos
  let canBeArrow := (← get).arrowStart == some start
  let lexed ← cur
  match lexed.token with
  | .word "this" _ =>
    discard bump
    return .this lexed.span
  | .word "null" _ =>
    discard bump
    return .literal (.null lexed.span)
  | .word "true" _ =>
    discard bump
    return .literal (.bool lexed.span true)
  | .word "false" _ =>
    discard bump
    return .literal (.bool lexed.span false)
  | .word "function" _ =>
    let (name, fn) ← functionFrom self start false true false
    return .function name fn
  | .word "class" _ =>
    let (name, cls) ← classFrom self start superclass false
    return .classExpr name cls
  | .word "async" _ =>
    let second ← peek
    if second.isWord "function" && !second.afterLine then
      discard bump
      let (name, fn) ← functionFrom self start true true false
      return .function name fn
    else if canBeArrow && second.isMark "(" && !second.afterLine then
      discard bump
      parenthesized self canBeArrow (some lexed.span)
    else nameOrArrow self start canBeArrow
  | .str value raw =>
    discard bump
    return .literal (.str ⟨lexed.span, value, some raw⟩)
  | .num _ raw =>
    discard bump
    return .literal (.num lexed.span raw)
  | .bigint _ raw =>
    discard bump
    return .literal (.bigint lexed.span raw)
  | .mark "[" => arrayLiteral self
  | .mark "\x7b" => objectLiteral self
  | .mark "(" => parenthesized self canBeArrow none
  | .mark "/" | .mark "/=" => regexLiteral
  | .mark "`" =>
    let (span, quasis, exprs) ← template self false
    return .template span quasis exprs
  | .mark "#" =>
    let (span, name) ← privateName
    return .privateName span name
  | .word word _ =>
    if word == "let" || (← atName) then nameOrArrow self start canBeArrow
    else fail .expectedExpression
  | .name _ => nameOrArrow self start canBeArrow
  | _ => fail .expectedExpression

inductive Callee where
  | expr (e : Expr)
  | super (span : Span)
  | importWord (span : Span) (phase : ImportPhase)

def Callee.lo : Callee → Nat
  | .expr e => e.span.lo
  | .super span | .importWord span _ => span.lo

def accessed (noCall : Bool) (callee : Callee) (isOptional : Bool) (key : MemberKey) :
    Parser Expr := do
  let span ← spanFrom callee.lo
  match callee with
  | .expr e =>
    if isOptional then return .optionalMember span true e key
    else return .member span e key
  | .super superSpan =>
    unless (← get).context.allowSuper do fail .superAccess
    if isOptional then fail (if noCall then .superCallee else .superAccess)
    match key with
    | .privateName .. => fail .superCallee
    | _ => return .superMember span superSpan key
  | .importWord .. => fail .importCallee

def called (callee : Callee) (isOptional : Bool) (args : List Argument) : Parser Expr := do
  let span ← spanFrom callee.lo
  match callee with
  | .expr e =>
    if isOptional || isOptionalChain e then return .optionalCall span isOptional e args
    else return .call span e args
  | .super superSpan =>
    if isOptional then fail .superOptional
    return .superCall span superSpan args
  | .importWord importSpan phase =>
    if isOptional then fail .superOptional
    return .importCall span importSpan phase args

def eatOptional : Parser Bool := do
  if ← atMark "?" then
    if ← peekMark "." then
      discard bump
      discard bump
      return true
  return false

/-- One member access, call or tagged template, if one comes next. -/
def subscript (self : Self) (noCall : Bool) (callee : Callee) : Parser (Option Expr) := do
  let isOptional ← eatOptional
  let bracket ← curPos
  if ← eatMark "[" then
    let index ← withIn (expression self)
    expectMark "]"
    let span ← spanFrom bracket
    return some (← accessed noCall callee isOptional (.computed span index))
  if (← atMark "(") && (isOptional || !noCall) then
    let isImport := match callee with
      | .importWord .. => true
      | _ => false
    let args ← arguments self isImport
    return some (← called callee isOptional args)
  if ← (if isOptional then pure true else eatMark ".") then
    if ← atMark "#" then
      let (span, name) ← privateName
      return some (← accessed noCall callee isOptional (.privateName span name))
    else return some (← accessed noCall callee isOptional (.name (← anyName)))
  match callee with
  | .expr e =>
    if ← atMark "`" then
      let (span, quasis, exprs) ← template self true
      let whole ← spanFrom e.span.lo
      if isOptionalChain e then report whole.lo .optionalChainTemplate
      return some (.taggedTemplate whole e span quasis exprs)
    else return none
  | .super _ => fail (if noCall then .superCallee else .superAccess)
  | .importWord .. => fail .importCallee

def subscripts (self : Self) (noCall : Bool) (callee : Callee) : Parser Expr :=
  looping callee fun callee => do
    match ← subscript self noCall callee, callee with
    | some e, _ => return .inl (.expr e)
    | none, .expr e => return .inr e
    | none, _ => fail .expectedExpression

/-- `import` behind the word: its metadata, or a call of it. -/
def importExpression (self : Self) (start : Nat) (noCall : Bool) : Parser Expr := do
  let word ← spanFrom start
  if ← eatMark "." then
    modify fun s => { s with sawModuleItem := true }
    let id ← anyName
    let span ← spanFrom start
    if id.name == "meta" then subscripts self noCall (.expr (.metaProperty span .importMeta))
    else if id.name == "source" then subscripts self noCall (.importWord span .source)
    else if id.name == "defer" then subscripts self noCall (.importWord span .defer)
    else failUnexpected "meta"
  else if ← atMark "(" then subscripts self noCall (.importWord word .evaluation)
  else failUnexpected "`.` or `(`"

/-- Whether the last access or call of a chain is the optional one. -/
def endsOptional : Expr → Bool
  | .optionalMember _ isOptional .. | .optionalCall _ isOptional .. => isOptional
  | _ => false

def memberOrNew (self : Self) (superclass : Parser Expr) : Parser Expr := do
  let start ← curPos
  if ← eatWord "new" then
    if ← eatMark "." then
      unless ← eatWord "target" do failUnexpected "target"
      let span ← spanFrom start
      let context := (← get).context
      unless context.inOrdinaryFunction || context.inParameters || context.inClass do
        report span.lo .newTargetOutside
      return ← subscripts self true (.expr (.metaProperty span .newTarget))
    let callee ← self .member
    match callee with
    | .arrow .. => return callee
    | _ => pure ()
    if endsOptional callee then failAt callee.span.lo .optionalChainInNew
    if ← atMark "(" then
      let args ← arguments self false
      let made := Expr.new (← spanFrom start) callee true args
      return ← subscripts self true (.expr made)
    return .new (← spanFrom start) callee false []
  if ← atWord "super" then
    let word ← bump
    return ← subscripts self true (.super word.span)
  if ← eatWord "import" then
    return ← importExpression self start true
  let base ← primary self superclass
  match base with
  | .arrow .. => return base
  | _ => subscripts self true (.expr base)

def leftHandSide (self : Self) : Parser Expr := do
  let start ← curPos
  if ← atWord "super" then
    let word ← bump
    return ← subscripts self false (.super word.span)
  if ← eatWord "import" then
    return ← importExpression self start false
  let callee ← self .member
  match callee with
  | .arrow .. | .new _ _ false _ => return callee
  | _ =>
    if ← atMark "(" then
      let args ← arguments self false
      let call ← called (.expr callee) false args
      subscripts self false (.expr call)
    else return callee

/-- Stands where an expression is missing. -/
def missing (place : Nat) : Expr := .ident ⟨⟨place, place⟩, ""⟩

/-- `await` behind the word, with its operand. Outside asynchronous functions the word is a name
where nothing that could be an operand follows. -/
def awaitRest (self : Self) (word : Span) : Parser Expr := do
  if ← atMark "*" then fail .awaitStar
  let context := (← get).context
  let lexed ← cur
  let ends ← atSemicolon
  if (ends || [")", "]", ","].any lexed.isMark) && !context.inAsync then
    if context.isModule then report word.lo .awaitAsIdentifier
    return .ident ⟨word, "await"⟩
  if context.inFunction && !context.inAsync then report (← curSpan).lo .awaitInFunction
  if context.inParameters && !context.inFunction then report word.lo .awaitInParameters
  let operand ← self .unary
  return .await (← spanFrom word.lo) operand

def unaryOp? (token : Token) : Option UnaryOp :=
  match token with
  | .mark "-" => some .minus
  | .mark "+" => some .plus
  | .mark "!" => some .not
  | .mark "~" => some .bitNot
  | .word "typeof" _ => some .typeof
  | .word "void" _ => some .void
  | .word "delete" _ => some .delete
  | _ => none

def updateOp? (token : Token) : Option UpdateOp :=
  match token with
  | .mark "++" => some .increment
  | .mark "--" => some .decrement
  | _ => none

/-- A module deletes no names. -/
def checkDelete (op : UnaryOp) (operand : Expr) : Parser Unit :=
  match op, operand with
  | .delete, .ident id => reportInModule id.span.lo .deleteOfName
  | _, _ => return

def unary (self : Self) : Parser Expr := do
  let lexed ← cur
  let start ← curPos
  if let some op := updateOp? lexed.token then
    discard bump
    let operand ← self .unary
    checkAssignable .notReference operand
    return .update ⟨start, operand.span.hi⟩ op true operand
  if let some op := unaryOp? lexed.token then
    discard bump
    let place := (← curPos) - 1
    let operand ← recovering (self .unary) fun error => do
      modify fun s => { s with faults := error :: s.faults }
      return missing place
    checkDelete op operand
    return .unary ⟨start, operand.span.hi⟩ op operand
  if lexed.isWord "await" then return ← awaitRest self (← bump).span
  let operand ← leftHandSide self
  match operand with
  | .arrow .. => return operand
  | _ =>
    let next ← cur
    if next.afterLine then return operand
    match updateOp? next.token with
    | some op =>
      checkAssignable .notReference operand
      discard bump
      return .update (← spanFrom operand.span.lo) op false operand
    | none => return operand

/-- The operator of two operands at a token. -/
def binaryOp? (allowIn : Bool) : Token → Option BinaryOp
  | .mark text => BinaryOp.ofMark? text
  | .word "in" _ => if allowIn then some .in_ else none
  | .word "instanceof" _ => some .instanceof
  | _ => none

/-- Where an unparenthesised operation has the given kind of operator. -/
def operationAt (test : BinaryOp → Bool) : Expr → Option Nat
  | .binary span op _ _ => if test op then some span.lo else none
  | _ => none

/-- `??` may not meet `&&` or `||` without parentheses. -/
def checkNullish (op : BinaryOp) (left right : Expr) : Parser Unit := do
  if op == .nullish then
    if let some place := operationAt BinaryOp.isLogical left then report place .mixedNullish
    if let some place := operationAt BinaryOp.isLogical right then report place .mixedNullish
  else if op.isLogical then
    if let some place := operationAt (· == .nullish) left then report place .mixedNullish

/-- The operations that follow an operand. -/
def operators (self : Self) (left : Expr) (above : Nat) : Parser Expr :=
  looping left fun left => do
    let lexed ← cur
    match binaryOp? (← get).context.allowIn lexed.token with
    | none => return .inr left
    | some op =>
      if op.precedence ≤ above then return .inr left
      discard bump
      match op, left with
      | .pow, .unary .. | .pow, .await .. => failAt lexed.span.lo .unaryBeforePower
      | _, _ => pure ()
      let operand ← self .unary
      let right ← self
        (.operators operand (if op == .pow then op.precedence - 1 else op.precedence))
      checkNullish op left right
      return .inl (.binary (left.span.through right.span) op left right)

/-- What to do where an operand is missing: before an operator it is left out, and at the end of
the text that is the fault. -/
def withoutOperand (error : SourceError) : Parser Expr := do
  let lexed ← required
  match binaryOp? (← get).context.allowIn lexed.token with
  | some _ =>
    report lexed.span.lo .expectedExpression
    return missing lexed.span.lo
  | none => throw error

def binary (self : Self) : Parser Expr := do
  let left ← recovering (self .unary) withoutOperand
  match left with
  | .arrow .. => return left
  | _ => self (.operators left 0)

def conditional (self : Self) : Parser Expr := do
  let start ← curPos
  let test ← binary self
  match test with
  | .arrow .. => return test
  | _ =>
    if ← eatMark "?" then
      let consequent ← withIn (self .assign)
      expectMark ":"
      let alternate ← self .assign
      return .conditional (← spanFrom start) test consequent alternate
    else return test

def startsExpression : Token → Bool
  | .word text _ =>
    isPlainWord text ||
      ["await", "function", "this", "new", "super", "class", "null", "true", "false", "typeof",
        "void", "delete", "import", "yield", "throw"].contains text
  | .name _ => true
  | .mark text =>
    ["!", "(", "\x7b", "[", "`", "++", "--", "~", "+", "-", "/", "/=", "#"].contains text
  | .str .. | .num .. | .bigint .. => true
  | .bad .. | .eof => true
  | .shebang _ => false

/-- `yield` in a generator. -/
def yieldExpression (self : Self) : Parser Expr := do
  let word ← bump
  let context := (← get).context
  if context.inParameters && !context.inFunction then
    failAt word.span.lo .yieldInParameters
  let lexed ← cur
  let ends ← atSemicolon
  if ends || (!lexed.isMark "*" && !startsExpression lexed.token) then
    return .yield (← spanFrom word.span.lo) false none
  let delegate ← eatMark "*"
  let operand ← self .assign
  return .yield (← spanFrom word.span.lo) delegate (some operand)

def isPlace : Expr → Bool
  | .ident _ | .member .. | .superMember .. | .paren ..
  | .optionalMember .. | .optionalCall .. => true
  | _ => false

/-- Ends an assignment, if the next token is an assignment operator. -/
def assignmentTo (self : Self) (start : Nat) (left : Expr) : Parser Expr := do
  let lexed ← cur
  let op? := match lexed.token with
    | .mark text => AssignOp.ofMark? text
    | _ => none
  match op? with
  | none => return left
  | some op =>
    let target ← if op == .assign then toPattern .target left
      else do
        checkAssignable .notAssignable left
        pure (asTarget left)
    match target with
    | .expr e => unless isPlace e do failAt e.span.lo .invalidTarget
    | _ => pure ()
    discard bump
    let value ← self .assign
    return .assign (← spanFrom start) op target value

/-- An expression that stands alone in a sequence. -/
def assign (self : Self) : Parser Expr := do
  if (← get).context.inGenerator && (← atWord "yield") then return ← yieldExpression self
  let lexed ← required
  let start := lexed.span.lo
  let mayBeArrow := match lexed.token with
    | .word text _ => isPlainWord text || text == "yield"
    | .name _ => true
    | .mark "(" => true
    | _ => false
  modify fun s => { s with arrowStart := if mayBeArrow then some start else none }
  let left ← conditional self
  match left with
  | .arrow .. | .conditional .. | .binary .. | .unary .. | .update .. => return left
  | _ => assignmentTo self start left

end GrammarEmbed.Parse
