import GrammarEmbed.Text.Quoted
import GrammarEmbed.Token.Basic

namespace GrammarEmbed.Token

open Text (hexValue?)

def isDigitOf (radix : Radix) (c : Char) : Bool :=
  (hexValue? c).any fun n => n < radix.base

/-- Digits and separators from the front of a text. -/
structure DigitRun where
  used : List Char
  rest : List Char
  /-- Whether every separator stands before a digit. -/
  fits : Bool
deriving Repr

namespace DigitRun

def push (run : DigitRun) (c : Char) (fits : Bool) : DigitRun :=
  { run with used := c :: run.used, fits := fits && run.fits }

def digits (run : DigitRun) : List Char :=
  run.used.filter (· != '_')

end DigitRun

/-- Reads digits and separators, at most `limit` digits. -/
def digitRun (radix : Radix) : (limit : Nat) → List Char → DigitRun
  | 0, rest => ⟨[], rest, true⟩
  | _, [] => ⟨[], [], true⟩
  | limit + 1, c :: rest =>
    if c == '_' then
      (digitRun radix (limit + 1) rest).push c (rest.head?.any (isDigitOf radix))
    else if isDigitOf radix c then (digitRun radix limit rest).push c true
    else ⟨[], c :: rest, true⟩

def allDigits (radix : Radix) (text : List Char) : DigitRun :=
  digitRun radix text.length text

def digitsNumber (base : Nat) (digits : List Char) : Nat :=
  digits.foldl (fun n c => n * base + (hexValue? c).getD 0) 0

end GrammarEmbed.Token
