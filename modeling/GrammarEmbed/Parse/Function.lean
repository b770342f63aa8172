import GrammarEmbed.Parse.Pattern

namespace GrammarEmbed.Parse

open Ast

/-- Where the directive `use strict` stands among the first statements. -/
def strictDirective? : List Stmt → Option Nat
  | .expr span (.literal (.str lit)) :: more =>
    if lit.raw == some "\"use strict\"" || lit.raw == some "'use strict'" then some span.lo
    else strictDirective? more
  | _ => none

def areSimple (params : List Pattern) : Bool :=
  params.all fun
    | .ident _ => true
    | _ => false

/-- A function that sets strict mode for itself may not have patterns as parameters. -/
def checkDirective (params : List Pattern) : Block → Parser Unit
  | .mk _ stmts => do
    if areSimple params then return
    if let some place := strictDirective? stmts then report place .strictDirectiveWithParameters

/-- The surroundings inside a function. -/
def insideFunction (isAsync isGenerator isArrow : Bool) (context : Context) : Context :=
  { context with
    inAsync := isAsync
    inGenerator := isGenerator
    inFunction := true
    inOrdinaryFunction := context.inOrdinaryFunction || !isArrow
    inStaticBlock := false
    inLoopHead := false
    inAwaitLoopHead := false
    allowBreak := false
    allowContinue := false }

def functionBody (self : Self) (isAsync isGenerator : Bool) (params : List Pattern) :
    Parser Block := do
  let body ← apart (within (insideFunction isAsync isGenerator false) (withIn (self (.block true))))
  checkDirective params body
  return body

/-- The body of an arrow function: a block, or an expression. -/
def arrowBody (self : Self) (isAsync : Bool) (params : List Pattern) : Parser ArrowBody := do
  apart <| within (insideFunction isAsync false true) do
    if ← atMark "\x7b" then
      let body ← self (.block false)
      checkDirective params body
      return .block body
    else return .expr (← self .assign)

def parameterList (self : Self) : Parser (List Pattern) := do
  expectMark "("
  let params ← within (fun context => { context with inParameters := true, inFunction := false })
    (parameters self false)
  expectMark ")"
  return params

/-- A function from its parameters on; `check` looks at the parameters before the body is
read. -/
def functionRest (self : Self) (start : Nat) (isAsync isGenerator : Bool)
    (check : List Pattern → Parser Unit) : Parser Func :=
  within (fun context =>
      { context with inAsync := isAsync, inGenerator := isGenerator, inField := false }) do
    let params ← parameterList self
    check params
    let body ← functionBody self isAsync isGenerator params
    return .mk (← spanFrom start) params body isGenerator isAsync

def methodRest (self : Self) (start : Nat) (isAsync isGenerator : Bool)
    (check : List Pattern → Parser Unit) : Parser Func :=
  within (fun context => { context with allowSuper := true })
    (functionRest self start isAsync isGenerator check)

def anyParameters (_ : List Pattern) : Parser Unit := return

/-- A getter has no parameters; the fault is placed where the caller says. -/
def checkGetter (place : Nat) (params : List Pattern) : Parser Unit := do
  unless params.isEmpty do report place .getterParameters

/-- A setter has one parameter, which does not take the rest. -/
def checkSetter (place : Nat) (params : List Pattern) : Parser Unit := do
  unless params.length == 1 do report place .setterParameters
  match params with
  | .rest span _ :: _ => report span.lo .setterRest
  | _ => return

/-- A function from its keyword on. The name of a declaration belongs to the surroundings, that
of an expression to the function itself. -/
def functionFrom (self : Self) (start : Nat) (isAsync isExpr isNameNeeded : Bool) :
    Parser (Option Ident × Func) := do
  expectWord "function"
  let isGenerator ← eatMark "*"
  let name ← within (fun context =>
      if isExpr then
        { context with inAsync := isAsync, inGenerator := isGenerator, allowSuper := false,
                       inField := false }
      else { context with allowSuper := false, inField := false })
    (maybeBindingName isNameNeeded)
  let fn ← within (fun context => { context with allowSuper := false })
    (functionRest self start isAsync isGenerator anyParameters)
  return (name, fn)

end GrammarEmbed.Parse
