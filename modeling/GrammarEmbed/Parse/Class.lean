import GrammarEmbed.Parse.Function

namespace GrammarEmbed.Parse

open Ast

def memberName (self : Self) : Parser PropertyKey := do
  if ← atMark "#" then
    let (span, name) ← privateName
    if name == "constructor" then report span.lo .privateConstructor
    return .privateName span name
  else propertyKey self

def isConstructorKey : PropertyKey → Bool
  | .name id => id.name == "constructor"
  | .str lit => lit.value == "constructor"
  | _ => false

/-- Whether a field ends here; a line end counts if `orLine`. -/
def atFieldEnd (orLine : Bool) : Parser Bool := do
  if ← atMark "=" then return true
  if ← atMark "\x7d" then return true
  if orLine then atSemicolon else atMark ";"

def fieldRest (self : Self) (start : Nat) (isStatic : Bool) (key : PropertyKey) :
    Parser ClassMember := do
  if isConstructorKey key then failAt key.span.lo .constructorField
  within (fun context => { context with allowIn := true, inField := true }) do
    let value ← if ← eatMark "=" then some <$> self .assign else pure none
    unless ← eatSemicolon do report (← curSpan).lo .expectedSemicolon
    return .field (← spanFrom start) isStatic key value

def memberMethod (self : Self) (start : Nat) (isStatic : Bool) (kind : MethodKind)
    (key : PropertyKey) (isAsync isGenerator : Bool)
    (check : List Pattern → Parser Unit) : Parser ClassMember := do
  let fn ← methodRest self start isAsync isGenerator check
  return .method (← spanFrom start) isStatic kind key fn

/-- A constructor behind its key. Its parameters are read in the surroundings of the class. -/
def constructorRest (self : Self) (start : Nat) (static : Option Span) (key : PropertyKey) :
    Parser ClassMember := do
  expectMark "("
  let params ← parameters self true
  expectMark ")"
  let body ← functionBody self false false params
  if let some span := static then report span.lo .staticConstructor
  return .constructor (← spanFrom start) key params (some body)

def staticBlock (self : Self) (start : Nat) : Parser ClassMember := do
  let body ← within (fun context => { context with inStaticBlock := true, inField := true })
    (self (.block false))
  return .staticBlock (← spanFrom start) body

def memberRest (self : Self) (start : Nat) (static : Option Span) : Parser ClassMember := do
  let isStatic := static.isSome
  if isStatic && (← atMark "\x7b") then return ← staticBlock self start
  if ← atWord "static" then
    if ← peekMark "\x7b" then
      if let some span := static then report span.lo .misplacedModifier
      discard bump
      return ← staticBlock self start
  if ← eatMark "*" then
    let key ← memberName self
    if isConstructorKey key then report start .generatorConstructor
    return ← memberMethod self start isStatic .method key false true anyParameters
  let key ← memberName self
  if ← atMark "(" then
    if isConstructorKey key then return ← constructorRest self start static key
    else return ← memberMethod self start isStatic .method key false false anyParameters
  let word := match key with
    | .name id => id.name
    | _ => ""
  let isAccessor ←
    if word == "get" || word == "set" then do
      let ends ← atFieldEnd false
      let nextLine ← afterLine
      let star ← atMark "*"
      pure (!ends && !(nextLine && star))
    else pure false
  if !isAccessor && (← atFieldEnd true) then
    return ← fieldRest self start isStatic key
  if word == "async" && !(← afterLine) then
    let isGenerator ← eatMark "*"
    let key ← memberName self
    if isConstructorKey key then failAt key.span.lo .asyncConstructor
    return ← memberMethod self start isStatic .method key true isGenerator anyParameters
  if isAccessor then
    let place := key.span.lo
    let key ← memberName self
    if isConstructorKey key then report place .accessorConstructor
    if word == "get" then
      return ← memberMethod self start isStatic .getter key false false (checkGetter place)
    else
      return ← memberMethod self start isStatic .setter key false false (checkSetter place)
  failUnexpected "* for generator, private key, identifier or async"

def classMember (self : Self) : Parser ClassMember := do
  let start ← curPos
  if ← atWord "static" then
    let static ← bump
    let key := PropertyKey.name ⟨static.span, "static"⟩
    if ← atMark "(" then
      memberMethod self start false .method key false false anyParameters
    else if (← atFieldEnd false) && !(← atMark "\x7b") then
      fieldRest self start false key
    else memberRest self start (some static.span)
  else memberRest self start none

def classMembers (self : Self) : Parser (List ClassMember) := do
  let found ← looping (([], false) : List ClassMember × Bool) fun (found, hasConstructor) => do
    if ← atEof then return .inr found
    if ← atMark "\x7d" then return .inr found
    if ← eatMark ";" then return .inl (.empty (← get).prev :: found, hasConstructor)
    let member ← within (fun context => { context with allowSuper := true }) (classMember self)
    match member with
    | .constructor span .. =>
      if hasConstructor then report span.lo .repeatedConstructor
      return .inl (member :: found, true)
    | _ => return .inl (member :: found, hasConstructor)
  return found.reverse

/-- A class from its keyword on; all of it is strict. A second superclass is read and left out. -/
def classFrom (self : Self) (start : Nat) (superclass : Parser Expr) (isNameNeeded : Bool) :
    Parser (Option Ident × ClassDef) := do
  within (fun context => { context with strict := true, inClass := true }) do
    expectWord "class"
    if isNameNeeded then refuseLet
    let name ← maybeBindingName isNameNeeded
    let parent ← if ← eatWord "extends" then some <$> superclass else pure none
    if ← eatWord "extends" then
      report (← get).prev.lo .repeatedExtends
      discard superclass
    expectMark "\x7b"
    let members ← classMembers self
    if ← atEof then
      report (← curSpan).lo (.expected "\x7d" "<eof>")
    else expectMark "\x7d"
    return (name, .mk (← spanFrom start) parent members)

end GrammarEmbed.Parse
