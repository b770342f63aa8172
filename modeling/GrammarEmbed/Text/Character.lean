import GrammarEmbed.Text.Ranges
import GrammarEmbed.Text.AlphabeticTable
import GrammarEmbed.Text.IdentifierTable
import GrammarEmbed.Text.WidthTable
import GrammarEmbed.Text.CaseTable
import GrammarEmbed.Text.CasedTable

namespace GrammarEmbed.Text

/-- Letters in the widest Unicode sense. -/
def isAlphabetic (c : Char) : Bool :=
  c.isAlpha || (0x80 ≤ c.toNat && inRanges alphabeticRanges c.toNat)

/-- Digits and other number characters of any script. -/
def isNumeric (c : Char) : Bool :=
  c.isDigit || (0x80 ≤ c.toNat && inRanges numericRanges c.toNat)

/-- The first character of an ECMAScript identifier name. -/
def isNameStart (c : Char) : Bool :=
  c.isAlpha || c == '$' || c == '_' || (0x80 ≤ c.toNat && inRanges idStartRanges c.toNat)

/-- A later character of an ECMAScript identifier name; the two joiners are among them. -/
def isNamePart (c : Char) : Bool :=
  c.isAlphanum || c == '$' || c == '_' || c == '\u200c' || c == '\u200d' ||
    (0x80 ≤ c.toNat && inRanges idContinueRanges c.toNat)

/-- The four characters that end a line of ECMAScript source. -/
def isLineEnd (c : Char) : Bool :=
  c == '\n' || c == '\r' || c == '\u2028' || c == '\u2029'

/-- White space in the Unicode sense, line ends included. -/
def isBlank (c : Char) : Bool :=
  let n := c.toNat
  (9 ≤ n && n ≤ 13) || n == 0x20 || n == 0x85 || n == 0xa0 || n == 0x1680 ||
    (0x2000 ≤ n && n ≤ 0x200a) || n == 0x2028 || n == 0x2029 || n == 0x202f || n == 0x205f ||
    n == 0x3000

def trim (s : String) : String :=
  String.ofList ((s.toList.dropWhile isBlank).reverse.dropWhile isBlank).reverse

/-- Cells that a character takes on a terminal; a tab counts four. -/
def width (c : Char) : Nat :=
  let n := c.toNat
  if n == 9 then 4
  else if n < 0x20 || n == 0x7f then 0
  else if n < 0x7f then 1
  else if inRanges wideRanges n then 2
  else if inRanges zeroWidthRanges n then 0
  else 1

def caseRun? : List CaseRun → Nat → Option CaseRun
  | [], _ => none
  | run :: rest, code =>
    if code < run.first then none
    else if code ≤ run.last && (code - run.first) % run.step == 0 then some run
    else caseRun? rest code

/-- The small letter of a capital; other characters stand for themselves. -/
def lowerChar (c : Char) : List Char :=
  if c.toNat < 0x80 then [c.toLower]
  else if c.toNat == 0x130 then ['i', '\u0307']
  else match caseRun? caseRuns c.toNat with
    | some run => [Char.ofNat (c.toNat + run.offset).toNat]
    | none => [c]

/-- Whether the first character that is no mark is a letter with case. -/
def startsCased : List Char → Bool
  | [] => false
  | c :: rest =>
    if inRanges caseIgnorableRanges c.toNat then startsCased rest
    else inRanges casedRanges c.toNat

/-- The small letter of a capital in its word, the characters before it given backwards: a sigma
that ends a word has a form of its own. -/
def lowerIn (before : List Char) (c : Char) (after : List Char) : List Char :=
  if c == '\u03a3' && startsCased before && !startsCased after then ['\u03c2'] else lowerChar c

/-- Lower case of the characters after those given backwards. -/
def lowerAfter : List Char → List Char → List Char
  | _, [] => []
  | before, c :: after => lowerIn before c after ++ lowerAfter (c :: before) after

def lowerCase (s : String) : String :=
  String.ofList (lowerAfter [] s.toList)

end GrammarEmbed.Text
