import GrammarEmbed.Parse.Basic

namespace GrammarEmbed.Parse

open Ast (Span Ident StringLit)

/-- Words that strict mode refuses as identifiers. -/
def strictlyRefused : List String :=
  ["static", "implements", "interface", "package", "private", "protected", "public", "yield", "let"]

def anyName : Parser Ident := do
  let lexed ← required
  match lexed.word? with
  | some text =>
    discard bump
    return ⟨lexed.span, text⟩
  | none => fail .expectedIdentifier

/-- The initial value of a field has no arguments. -/
def checkArguments (span : Span) (name : String) : Parser Unit := do
  if name == "arguments" && (← get).context.inField then report span.lo .argumentsInField

/-- An identifier; `yield` and `await` count where the caller says so. -/
def identifier (allowYield allowAwait : Bool) : Parser Ident := do
  let lexed ← required
  match lexed.token with
  | .word text _ =>
    discard bump
    let place := lexed.span.lo
    if text == "enum" then report place (.reservedInStrictMode text)
    if strictlyRefused.contains text then reportInModule place (.reservedInStrictMode text)
    let context := (← get).context
    if text == "await" then
      if context.inStaticBlock then failAt place .expectedIdentifier
      if context.isModule || context.inAsync then failAt place .awaitAsIdentifier
    checkArguments lexed.span text
    let isName :=
      text == "let" || isPlainWord text || (text == "yield" && allowYield) ||
        (text == "await" && allowAwait)
    if isName then return ⟨lexed.span, text⟩ else failAt place .expectedIdentifier
  | .name text =>
    discard bump
    checkArguments lexed.span text
    return ⟨lexed.span, text⟩
  | _ => fail .expectedIdentifier

/-- Names that strict mode does not bind. -/
def isRestricted (name : String) : Bool :=
  name == "eval" || name == "arguments"

/-- Lexical declarations and classes do not bind the word `let`. -/
def refuseLet : Parser Unit := do
  if ← atWord "let" then failUnexpected "let is reserved in const, let, class declaration"

def bindingName : Parser Ident := do
  let id ← identifier true true
  let context := (← get).context
  if isRestricted id.name then reportInModule id.span.lo .restrictedBinding
  if (context.inAsync || context.inStaticBlock) && id.name == "await" then
    report id.span.lo .expectedIdentifier
  if context.inGenerator && id.name == "yield" then report id.span.lo .expectedIdentifier
  return id

/-- A bound name, which may be left out unless it is needed. -/
def maybeBindingName (isNeeded : Bool) : Parser (Option Ident) := do
  if isNeeded then some <$> bindingName
  else if ← atName then some <$> bindingName
  else return none

/-- A private name from its mark on. Blanks may stand behind the mark. -/
def privateName : Parser (Span × String) := do
  let hash ← bump
  let id ← anyName
  return (⟨hash.span.lo, id.span.hi⟩, id.name)

def stringToken (want : String) : Parser StringLit := do
  let lexed ← required
  match lexed.token with
  | .str value raw =>
    discard bump
    return ⟨lexed.span, value, some raw⟩
  | _ => failUnexpected want

end GrammarEmbed.Parse
