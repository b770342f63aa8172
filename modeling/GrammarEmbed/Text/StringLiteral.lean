import GrammarEmbed.Text.Quoted

/-!
String literals for texts that no source spells. The literal is in double quotes unless the text
has more double than single quotes; the quote in use, backslashes, line ends and most control
characters are escaped.
-/

namespace GrammarEmbed.Text

def isHexDigit (c : Char) : Bool :=
  c.isDigit || ('a' ≤ c && c ≤ 'f') || ('A' ≤ c && c ≤ 'F')

/-- Whether the characters spell the four hexadecimal digits of a surrogate. -/
def spellsSurrogate : List Char → Bool
  | a :: b :: c :: d :: _ =>
    (a == 'd' || a == 'D') && isHexDigit b && !('0' ≤ b && b ≤ '7') && isHexDigit c && isHexDigit d
  | _ => false

/-- Whether the characters after a backslash make it the escape of a surrogate, which is kept. -/
def keepsBackslash : List Char → Bool
  | 'u' :: '\x7b' :: rest => spellsSurrogate rest
  | 'u' :: rest => spellsSurrogate rest
  | _ => false

/-- Spelling of a character other than a quote, given what follows it. -/
def literalChar (c : Char) (rest : List Char) : List Char :=
  if c == '\x00' then
    match rest with
    | next :: _ => if next.isDigit then ['\\', 'x', '0', '0'] else ['\\', '0']
    | [] => ['\\', '0']
  else if c == '\x08' then ['\\', 'b']
  else if c == '\x0c' then ['\\', 'f']
  else if c == '\n' then ['\\', 'n']
  else if c == '\r' then ['\\', 'r']
  else if c == '\x0b' then ['\\', 'v']
  else if c == '\t' then ['\t']
  else if c == '\\' then if keepsBackslash rest then ['\\'] else ['\\', '\\']
  else if c.toNat < 0x20 then
    ['\\', 'x', Nat.digitChar (c.toNat / 16), Nat.digitChar (c.toNat % 16)]
  else if c == '\u2028' then ['\\', 'u', '2', '0', '2', '8']
  else if c == '\u2029' then ['\\', 'u', '2', '0', '2', '9']
  else if c == '\uFEFF' then ['\\', 'u', 'F', 'E', 'F', 'F']
  else [c]

def literalBody (quote : Char) : List Char → List Char
  | [] => []
  | c :: rest =>
    (if c == quote then ['\\', c]
      else if c == '"' || c == '\'' then [c]
      else literalChar c rest) ++ literalBody quote rest

/-- The quote for a text: double unless single quotes are fewer in it. -/
def literalQuote (s : List Char) : Char :=
  if s.count '\'' < s.count '"' then '\'' else '"'

def stringLiteral (s : String) : String :=
  let quote := literalQuote s.toList
  String.ofList (quote :: (literalBody quote s.toList ++ [quote]))

end GrammarEmbed.Text
