import GrammarEmbed.Token.Digits

namespace GrammarEmbed.Token

/-- Code points that stand for no character on their own. -/
def isSurrogate (n : Nat) : Bool :=
  0xd800 ≤ n && n ≤ 0xdfff

/-- What is wrong with an escape. In a name the fault is placed `offset` characters behind the
backslash. -/
structure EscapeFault where
  fault : Fault
  offset : Nat
deriving Repr

structure Escape where
  /-- The characters that belong to it. -/
  used : List Char
  /-- The characters that it stands for. -/
  value : Except EscapeFault (List Char)
  isLegacy : Bool := false
  /-- Where its digits start, if a separator among them does not fit. -/
  misplaced : Option Nat := none

namespace Escape

/-- Characters that stand for others. -/
def plain (used value : List Char) : Escape :=
  { used, value := .ok value }

/-- A fault behind the characters read so far. -/
def faulty (used : List Char) (fault : Fault) (offset : Nat) : Escape :=
  { used, value := .error ⟨fault, offset⟩ }

/-- Notes the digits of an escape, which start `offset` characters behind the backslash. -/
def withDigits (escape : Escape) (run : DigitRun) (offset : Nat) : Escape :=
  { escape with misplaced := if run.fits then none else some offset }

/-- The faults among the separators of an escape whose backslash is at `pos`. -/
def notices (escape : Escape) (pos : Nat) : List Notice :=
  match escape.misplaced with
  | some offset => [⟨.always, ⟨pos + offset, .misplacedSeparator⟩⟩]
  | none => []

end Escape

/-- Reads a Unicode escape in braces, behind the opening one. Half of a surrogate pair keeps its
spelling. -/
def bracedEscape (rest : List Char) : Escape :=
  let run := allDigits .hexadecimal rest
  let n := digitsNumber 16 run.digits
  let closed (taken value : List Char) : Escape :=
    match rest.drop taken.length with
    | '\x7d' :: _ => .plain ('u' :: '\x7b' :: taken ++ ['\x7d']) value
    | _ => .faulty ('u' :: '\x7b' :: taken) .invalidUnicodeEscape 3
  let found : Escape :=
    if run.digits.isEmpty || 0x100000000 ≤ n then
      .faulty ('u' :: '\x7b' :: run.used) (.badEscape "1-6 hex characters") (run.used.length + 3)
    else if 0x10ffff < n then
      .faulty ('u' :: '\x7b' :: run.used)
        (.badEscape "1-6 hex characters in the range 0 to 10FFFF.") (run.used.length + 3)
    else if isSurrogate n then
      let taken := (rest.take 6).takeWhile (· != '\x7d')
      closed taken ("\\u\x7b".toList ++ taken ++ ['\x7d'])
    else closed run.used [Char.ofNat n]
  found.withDigits run 3

def fourDigitEscape (rest : List Char) : Escape :=
  let run := digitRun .hexadecimal 4 rest
  let n := digitsNumber 16 run.digits
  let found : Escape :=
    if run.digits.length != 4 then
      .faulty ('u' :: run.used) (.badEscape "4 hex characters") (run.used.length + 2)
    else if isSurrogate n then .plain ('u' :: rest.take 4) ("\\u".toList ++ rest.take 4)
    else .plain ('u' :: run.used) [Char.ofNat n]
  found.withDigits run 2

def unicodeEscape : List Char → Escape
  | '\x7b' :: rest => bracedEscape rest
  | rest => fourDigitEscape rest

def twoDigitEscape (rest : List Char) : Escape :=
  let run := digitRun .hexadecimal 2 rest
  let found : Escape :=
    if run.digits.length != 2 then
      .faulty ('x' :: run.used) (.badEscape "2 hex characters") (run.used.length + 2)
    else .plain ('x' :: run.used) [Char.ofNat (digitsNumber 16 run.digits)]
  found.withDigits run 2

/-- Reads up to three octal digits whose number fits in a byte. -/
def octalEscape (first : Char) (rest : List Char) : Escape :=
  let digits := first :: (rest.take 2).takeWhile (isDigitOf .octal)
  let digits := if digitsNumber 8 digits < 256 then digits else digits.take 2
  { used := digits, value := .ok [Char.ofNat (digitsNumber 8 digits)], isLegacy := true }

/-- Reads what follows a backslash in a string or template. A line end stands for nothing. -/
def escape : List Char → Escape
  | [] => .faulty [] .invalidStringEscape 0
  | '\r' :: '\n' :: _ => .plain ['\r', '\n'] []
  | c :: rest =>
    if c == 'n' then .plain [c] ['\n']
    else if c == 'r' then .plain [c] ['\r']
    else if c == 't' then .plain [c] ['\t']
    else if c == 'b' then .plain [c] ['\x08']
    else if c == 'v' then .plain [c] ['\x0b']
    else if c == 'f' then .plain [c] ['\x0c']
    else if c == '\r' || c == '\n' || c == '\u2028' || c == '\u2029' then .plain [c] []
    else if c == 'x' then twoDigitEscape rest
    else if c == 'u' then unicodeEscape rest
    else if isDigitOf .octal c then
      if c == '0' && !rest.head?.any (isDigitOf .octal) then .plain [c] ['\x00']
      else octalEscape c rest
    else .plain [c] [c]

end GrammarEmbed.Token
