import GrammarEmbed.Ast.Basic
import GrammarEmbed.Token.Gap
import GrammarEmbed.Token.Number

/-!
Reading a source token by token. The grammar decides how a slash or a backtick goes on, so that
regular expressions and template pieces are read on request.
-/

namespace GrammarEmbed

open Ast (Span Quasi)

/-- What is left of a source, and what has been collected on the way. -/
structure Lexer where
  rest : List Char
  pos : Nat := 1
  isFirst : Bool := true
  /-- Where the last token ended. -/
  lastEnd : Nat := 1
  before : Token.Before := {}
  /-- Comments that lead the next token. -/
  pending : List Comment := []
  comments : Comments := {}
  /-- An unterminated regular expression, behind which nothing else is found. -/
  broken : Option Lexed := none
deriving Repr

namespace Lexer

def ofText (source : String) : Lexer := { rest := source.toList }

/-- The marks of the language; a mark stands before those it starts with. An optional chain has
two. -/
def marks : List String :=
  [">>>=", "...", "===", "!==", "**=", "<<=", ">>=", ">>>", "&&=", "||=", "??=",
    "=>", "==", "!=", "<=", ">=", "&&", "||", "??", "++", "--", "+=", "-=", "*=", "/=", "%=",
    "&=", "|=", "^=", "<<", ">>", "**", "\x7b", "\x7d", "(", ")", "[", "]", ";", ",", "<", ">", "+",
    "-", "*", "/", "%", "&", "|", "^", "!", "~", "?", ":", "=", ".", "@", "#", "`"]

def mark? (text : List Char) : Option (String × List Char) :=
  (marks.find? fun mark => mark.toList.isPrefixOf text).map fun mark =>
    (mark, text.drop mark.length)

/-- Reads the line between the two older versions of a failed merge, which is no token. -/
def conflictToken (pos : Nat) (text : List Char) : Token.Found :=
  let used := text.takeWhile fun c => !Text.isLineEnd c
  let error : SourceError := ⟨pos, .conflictMarker⟩
  ⟨.bad error (pos + 7), used, text.drop used.length, [⟨.always, error⟩]⟩

/-- Reads the token at the front of a text that is not empty. -/
def token (pos : Nat) (afterLine : Bool) (first : Char) (rest : List Char) : Token.Found :=
  if Text.isNameStart first || first == '\\' then Token.nameToken pos (first :: rest)
  else if first.isDigit || (first == '.' && rest.head?.any Char.isDigit) then
    Token.number pos (first :: rest)
  else if first == '"' || first == '\'' then Token.stringLiteral pos first rest
  else if afterLine && "||||||| ".toList.isPrefixOf (first :: rest) then
    conflictToken pos (first :: rest)
  else match mark? (first :: rest) with
    | some (mark, left) => ⟨.mark mark, mark.toList, left, []⟩
    | none => ⟨.bad ⟨pos, .unexpectedCharacter first⟩ pos, [first], rest, []⟩

def advance (lexer : Lexer) (last : Token) (stop : Nat) (rest : List Char) : Lexer :=
  { lexer with rest, pos := stop, lastEnd := stop, before := .of last }

/-- Reads the next token behind its gap. Comments at the end of the source trail its last token. A
null character looks like the end, but reading goes on behind it. -/
def tokenAfter (lexer : Lexer) (gap : Token.Gap) (text : List Char) :
    Lexed × List Notice × Lexer :=
  let comments := lexer.comments.addTrailing lexer.lastEnd gap.trailing
  let lexer := { lexer with isFirst := false, comments }
  match text with
  | [] =>
    let comments :=
      if lexer.lastEnd == 1 then comments.addLeading 1 gap.leading
      else comments.addTrailing lexer.lastEnd gap.leading
    (⟨.eof, ⟨gap.pos, gap.pos⟩, true⟩, gap.notices,
      { lexer with rest := [], pos := gap.pos, pending := [], comments })
  | '\x00' :: rest =>
    (⟨.eof, ⟨gap.pos, gap.pos⟩, true⟩, gap.notices,
      { lexer with rest, pos := gap.pos + 1, pending := gap.leading })
  | first :: rest =>
    let found := token gap.pos gap.afterLine first rest
    let start := gap.start.getD gap.pos
    let stop := gap.pos + byteCount found.used
    let comments := comments.addLeading start gap.leading
    (⟨found.token, ⟨start, stop⟩, gap.afterLine⟩, gap.notices ++ found.notices,
      { lexer with pending := [], comments }.advance found.token stop found.rest)

def next (lexer : Lexer) : Lexed × List Notice × Lexer :=
  match lexer.broken, lexer.isFirst, lexer.rest with
  | some lexed, _, _ => (lexed, [], lexer)
  | none, true, '#' :: '!' :: rest =>
    let text := rest.takeWhile fun c => !Text.isLineEnd c
    let stop := lexer.pos + 2 + byteCount text
    let token := Token.shebang (String.ofList text)
    (⟨token, ⟨lexer.pos, stop⟩, false⟩, [], lexer.advance token stop (rest.drop text.length))
  | none, isFirst, text =>
    let (gap, text) := Token.gap lexer.before .blank text
      { pos := lexer.pos, afterLine := isFirst, leading := lexer.pending }
    lexer.tokenAfter gap text

/-- Reads on from a slash as a regular expression whose pattern starts with `lead`. -/
def regex (lexer : Lexer) (lead : List Char) : Option (String × String × Lexer) := do
  let (pattern, rest) ← Token.regexBody false false (lead ++ lexer.rest)
  let flags := Token.nameBody 0 lexer.pos true rest
  let flags := if rest.head?.any Text.isNameStart then flags else ⟨[], [], rest, false, [], none⟩
  let stop := lexer.pos + byteCount pattern - byteCount lead + 1 + byteCount flags.used
  return (String.ofList pattern, String.ofList flags.value,
    lexer.advance (.str "" "") stop flags.rest)

/-- Gives up at the slash of a regular expression without an end. -/
def breakAt (lexer : Lexer) (slash : Lexed) : Lexer :=
  let used := lexer.rest.takeWhile fun c => !Text.isLineEnd c
  let stop := lexer.pos + byteCount used
  let token := Token.bad ⟨slash.span.lo, .unterminatedRegex⟩ stop
  { lexer with
    rest := []
    pos := stop
    broken := some ⟨token, ⟨stop, stop⟩, slash.afterLine⟩ }

/-- Reads a piece of a template: its text, its span, the last faulty escape, and faults that did
not stop it. -/
def template (lexer : Lexer) : Option (Quasi × Option SourceError × List Notice × Lexer) := do
  let body ← Token.templateBody 0 lexer.pos lexer.rest
  let stop := lexer.pos + byteCount body.used
  return (⟨⟨lexer.pos, stop⟩, String.ofList body.used⟩, body.error, body.notices,
    lexer.advance (.mark "`") stop body.rest)

end Lexer

end GrammarEmbed
