import GrammarEmbed.Parse.Name

namespace GrammarEmbed.Parse

open Ast

/-- The key of a property: a word, a string, a number, or an expression in brackets. -/
def propertyKey (self : Self) : Parser PropertyKey := do
  let lexed ← required
  match lexed.token with
  | .str value raw =>
    discard bump
    return .str ⟨lexed.span, value, some raw⟩
  | .num _ raw =>
    discard bump
    return .num lexed.span raw
  | .bigint _ raw =>
    discard bump
    return .bigint lexed.span raw
  | .word text _ | .name text =>
    discard bump
    return .name ⟨lexed.span, text⟩
  | .mark "[" =>
    discard bump
    let index ← withIn (self .assign)
    expectMark "]"
    return .computed (← spanFrom lexed.span.lo) index
  | _ => failUnexpected "identifier, string literal, numeric literal or [ for the computed key"

def bindingElement (self : Self) : Parser Pattern := do
  let start ← curPos
  let left ← self .pattern
  if ← eatMark "=" then
    let right ← withIn (self .assign)
    return .assign (← spanFrom start) left right
  else return left

/-- The elements of an array pattern read so far, last first. -/
structure ElementsRead where
  elements : List (Option Pattern) := []
  /-- Holes behind them. -/
  holes : Nat := 0
  /-- Where the last element starts that takes the rest. -/
  rest : Option Nat := none

/-- An array pattern. Holes at its end are dropped. -/
def arrayPattern (self : Self) : Parser Pattern := do
  let start ← curPos
  discard bump
  let elements ← looping ({} : ElementsRead) fun read => do
    if ← atEof then return .inr read.elements
    if ← atMark "]" then return .inr read.elements
    if ← eatMark "," then return .inl { read with holes := read.holes + 1 }
    if let some place := read.rest then report place .restNotLast
    let elementStart ← curPos
    let isRest ← eatMark "..."
    let element ← if isRest then do
        let inner ← self .pattern
        pure (.rest (← spanFrom elementStart) inner)
      else bindingElement self
    unless ← atMark "]" do
      expectMark ","
      if isRest && (← atMark "]") then report (← get).prev.lo .commaAfterRest
    return .inl {
      elements := some element :: List.replicate read.holes none ++ read.elements
      rest := if isRest then some elementStart else read.rest }
  expectMark "]"
  return .array (← spanFrom start) elements.reverse

def patternProperty (self : Self) : Parser PatternProperty := do
  let start ← curPos
  if ← eatMark "..." then
    let inner ← self .pattern
    return .rest (← spanFrom start) inner
  let key ← propertyKey self
  if ← eatMark ":" then
    return .keyValue key (← bindingElement self)
  match key with
  | .name id =>
    if ← eatMark "=" then
      let fallback ← withIn (self .assign)
      return .shorthand (← spanFrom start) id (some fallback)
    else return .shorthand (← spanFrom start) id none
  | _ => failUnexpected "an identifier"

def braced {α : Type} (part : Parser α) : Parser (List α × Option Span) := do
  discard bump
  let (parts, comma) ← looping (([], none) : List α × Option Span) fun (parts, comma) => do
    if ← eatMark "\x7d" then return .inr (parts, comma)
    let next ← part
    if ← atMark "\x7d" then return .inl (next :: parts, comma)
    expectMark ","
    let prev := (← get).prev
    return .inl (next :: parts, if ← atMark "\x7d" then some prev else comma)
  return (parts.reverse, comma)

/-- The rest of an object pattern is a name and stands last. -/
def checkRest (comma : Option Span) : List PatternProperty → Parser Unit
  | [] => return
  | [.rest span inner] =>
    match inner with
    | .ident _ =>
      match comma with
      | some comma => report comma.lo .commaAfterRest
      | none => return
    | _ => failAt span.lo .restNotIdentifier
  | .rest span _ :: more => do
    report span.lo .restNotLast
    checkRest comma more
  | _ :: more => checkRest comma more

def objectPattern (self : Self) : Parser Pattern := do
  let start ← curPos
  let (properties, comma) ← braced (patternProperty self)
  checkRest comma properties
  return .object (← spanFrom start) properties

def pattern (self : Self) : Parser Pattern := do
  let lexed ← required
  match lexed.token with
  | .word .. | .name _ => return .ident (← bindingName)
  | .mark "[" => arrayPattern self
  | .mark "\x7b" => objectPattern self
  | _ => failUnexpected "yield, an identifier, [ or \x7b"

/-- One parameter, and whether it takes the rest. What a rest parameter may not have is a value; a
constructor's does not even get as far as reading one. -/
def parameter (self : Self) (isConstructor : Bool) : Parser (Pattern × Bool) := do
  let start ← curPos
  if ← eatMark "..." then
    let inner ← self .pattern
    if isConstructor then return (.rest (← spanFrom start) inner, true)
    let inner ← if ← eatMark "=" then do
        let right ← self .assign
        report inner.span.lo .restWithValue
        pure (Pattern.assign (← spanFrom start) inner right)
      else pure inner
    return (.rest (← spanFrom start) inner, true)
  let left ← self .pattern
  if ← eatMark "=" then
    let right ← self .assign
    return (.assign (← spanFrom start) left right, false)
  else return (left, false)

def parameters (self : Self) (isConstructor : Bool) : Parser (List Pattern) := do
  let found ← looping (([], none) : List Pattern × Option Nat) fun (found, rest) => do
    if ← atEof then return .inr found
    if ← atMark ")" then return .inr found
    if let some place := rest then report place .restNotLastParameter
    let (param, isRest) ← parameter self isConstructor
    unless ← atMark ")" do
      expectMark ","
      if isRest && (← atMark ")") then report (← get).prev.lo .commaAfterRest
    return .inl (param :: found, if isRest then some param.span.lo else rest)
  return found.reverse

end GrammarEmbed.Parse
