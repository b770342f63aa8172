import GrammarEmbed.Parse.Basic

/-!
Expressions that prove to be patterns. The left side of an assignment and the head of an arrow
function are read as expressions; once the operator or arrow shows what they are, they become
patterns here.
-/

namespace GrammarEmbed.Parse

open Ast

/-- What a pattern is for: names to bind, or places to assign to; as a whole, or inside another
pattern. -/
inductive Role where
  | binding
  | bindingElement
  | target
  | targetElement
deriving DecidableEq, Repr

def Role.element : Role → Role
  | .binding | .bindingElement => .bindingElement
  | .target | .targetElement => .targetElement

/-- Whether an access or call is optional, or a call belongs to such a chain. -/
def isOptionalChain : Expr → Bool
  | .optionalMember .. | .optionalCall .. => true
  | _ => false

/-- Whether a value can be assigned to an expression. Members of an optional chain take none. -/
def isAssignable (strict : Bool) : Expr → Bool
  | .ident id => !(strict && (id.name == "eval" || id.name == "arguments"))
  | .member _ (.member span object key) _ => isAssignable strict (.member span object key)
  | .member _ object _ => !isOptionalChain object
  | .superMember .. => true
  | .paren _ inner => isAssignable strict inner
  | _ => false

def checkAssignable (fault : Fault) (e : Expr) : Parser Unit := do
  unless isAssignable (← get).context.strict e do report e.span.lo fault

def asTarget : Expr → Pattern
  | .ident id => .ident id
  | e => .expr e

/-- Operands that a pattern has as places to assign to. -/
def isOperand : Expr → Bool
  | .member .. | .superMember .. | .call .. | .new .. | .literal _ | .ident _ | .function ..
  | .classExpr .. | .paren .. | .template .. => true
  | _ => false

def leafPattern (role : Role) (e : Expr) : Parser Pattern := do
  match role, e with
  | .target, _ =>
    checkAssignable .notReference e
    return asTarget e
  | _, .assign span .assign target value => return .assign span target value
  | .targetElement, _ =>
    if isOperand e then
      checkAssignable .notAssignable e
      return asTarget e
    else
      report e.span.lo .notPattern
      return .expr e
  | _, .ident id => return .ident id
  | _, _ =>
    report e.span.lo .notPattern
    return .expr e

def isHole : Element → Bool
  | .hole => true
  | _ => false

def checkCommaAfterRest (start : Nat) : Parser Unit := do
  if let some entry := (← get).trailingCommas.find? fun entry => entry.1 == start then
    report entry.2.lo .commaAfterRest

def isAssignment : Expr → Bool
  | .assign .. => true
  | _ => false

/-- A getter, setter or method is no part of a pattern. -/
def refuseProperty {α : Type} (property : Property) : Parser α :=
  failAt property.span.lo .notPattern

/-- The name that takes the remaining properties; a binding takes nothing else. -/
def restTarget (role : Role) (dots : Span) (value : Expr) (converted : Parser Pattern) :
    Parser Pattern :=
  match role, value with
  | .bindingElement, .ident id => return .ident id
  | .bindingElement, _ => do
    report dots.lo .restNotIdentifier
    return .expr value
  | _, _ => converted

/-- What takes the rest has no value to fall back on. -/
def checkRestValue (dots : Span) : Pattern → Parser Unit
  | .assign .. => report dots.lo .restWithValue
  | _ => return

mutual

/-- An expression as a pattern. -/
def toPattern (role : Role) : Expr → Parser Pattern
  | .object span properties => do
    return .object span (← toPatternProperties role.element span.lo properties)
  | .array span elements => do
    return .array span (← toPatternElements role.element span.lo elements)
  | .assign span .assign (.expr target) value => do
    if role == .target then leafPattern role (.assign span .assign (.expr target) value)
    else return .assign span (← toPattern role target) value
  | e => leafPattern role e

def toPatternElements (role : Role) (start : Nat) : List Element → Parser (List (Option Pattern))
  | [] => return []
  | .hole :: more => do
    if more.all isHole then return []
    return none :: (← toPatternElements role start more)
  | .item (.mk none value) :: more => do
    let first ← toPattern role value
    return some first :: (← toPatternElements role start more)
  | .item (.mk (some dots) value) :: more => do
    if more.isEmpty then
      if isAssignment value then report dots.lo .restWithValue
      checkCommaAfterRest start
      let inner ← toPattern role value
      return [some (.rest value.span inner)]
    else
      report dots.lo .restNotLast
      toPatternElements role start more

def toPatternProperties (role : Role) (start : Nat) : List Property → Parser (List PatternProperty)
  | [] => return []
  | .shorthand id :: more => do
    return .shorthand id.span id none :: (← toPatternProperties role start more)
  | .keyValue key value :: more => do
    let inner ← toPattern role value
    return .keyValue key inner :: (← toPatternProperties role start more)
  | .initialized span id value :: more => do
    return .shorthand span id (some value) :: (← toPatternProperties role start more)
  | .spread dots value :: more => do
    if more.isEmpty then checkCommaAfterRest start
    else report dots.lo .restNotLast
    let inner ← restTarget role dots value (toPattern role value)
    checkRestValue dots inner
    return .rest (dots.through value.span) inner :: (← toPatternProperties role start more)
  | .getter span key body :: _ => refuseProperty (.getter span key body)
  | .setter span key param body :: _ => refuseProperty (.setter span key param body)
  | .method key fn :: _ => refuseProperty (.method key fn)

end

mutual

def boundNames : Pattern → List Ident
  | .ident id => [id]
  | .array _ elements => boundNamesOfElements elements
  | .object _ properties => boundNamesOfProperties properties
  | .rest _ inner => boundNames inner
  | .assign _ left _ => boundNames left
  | .expr _ => []

def boundNamesOfElements : List (Option Pattern) → List Ident
  | [] => []
  | none :: more => boundNamesOfElements more
  | some element :: more => boundNames element ++ boundNamesOfElements more

def boundNamesOfProperties : List PatternProperty → List Ident
  | [] => []
  | .keyValue _ value :: more => boundNames value ++ boundNamesOfProperties more
  | .shorthand _ id _ :: more => id :: boundNamesOfProperties more
  | .rest _ inner :: more => boundNames inner ++ boundNamesOfProperties more

end

end GrammarEmbed.Parse
