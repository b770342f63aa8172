import GrammarEmbed.Json.Binary64
import GrammarEmbed.Token.Literal

namespace GrammarEmbed.Token

open Json (Binary64)
open Text (isNameStart)

/-- A floating point number as messages show it; none is beyond the largest. -/
def numberText : Option Binary64 → String
  | some value => value.plain
  | none => "inf"

def integerText (base : Nat) (digits : List Char) : String :=
  numberText (Binary64.ofRatio false (digitsNumber base digits) 1)

/-- The value of the digits of a decimal literal, of which `scale` stand behind the point, times a
power of ten. Beyond four hundred places only the exponent counts. -/
def decimalText (digits : List Char) (scale : Nat) (exponent : Int) : String :=
  let significant := digits.dropWhile (· == '0')
  let power := exponent - scale
  let size : Int := significant.length + power
  let n := digitsNumber 10 significant
  if significant.isEmpty || size < -400 then "0"
  else if 400 < size then "inf"
  else if 0 ≤ power then numberText (Binary64.ofRatio false (n * Binary64.tenTo power.toNat) 1)
  else numberText (Binary64.ofRatio false n (Binary64.tenTo (-power).toNat))

/-- Ends a number literal: a name may not follow it. -/
def endNumber (token : String → Token) (pos : Nat) (used rest : List Char)
    (notices : List Notice) : Found :=
  if rest.head?.any isNameStart then
    let place := pos + used.length
    ⟨.bad ⟨place, .identifierAfterNumber⟩ place, used, rest, notices⟩
  else ⟨token (String.ofList used), used, rest, notices⟩

/-- The fault of digits that start at `pos` and have separators that do not fit. -/
def separatorNotices (run : DigitRun) (pos : Nat) : List Notice :=
  if run.fits then [] else [⟨.always, ⟨pos, .misplacedSeparator⟩⟩]

/-- Digits are missing at `pos`, where nothing but separators was read. -/
def missingDigit (radix : Radix) (pos : Nat) (run : DigitRun) : Token :=
  .bad ⟨pos, .expectedDigit radix⟩ (pos + run.used.length)

/-- A literal with a radix, behind the two characters that name it. -/
def radixNumber (radix : Radix) (pos : Nat) (zero mark : Char) (rest : List Char) : Found :=
  let run := allDigits radix rest
  let notices := separatorNotices run (pos + 2)
  let used := zero :: mark :: run.used
  if run.digits.isEmpty then ⟨missingDigit radix (pos + 2) run, used, run.rest, notices⟩
  else match run.rest with
    | 'n' :: left =>
      let value := toString (digitsNumber radix.base run.digits)
      ⟨.bigint value (String.ofList (used ++ ['n'])), used ++ ['n'], left, notices⟩
    | left => endNumber (.num (integerText radix.base run.digits)) pos used left notices

/-- The exponent of a decimal literal, behind the characters used so far. -/
def numberExponent (pos : Nat) (digits : List Char) (scale : Nat) (used rest : List Char)
    (notices : List Notice) : Found :=
  match rest with
  | e :: rest' =>
    if e == 'e' || e == 'E' then
      let sign := (rest'.take 1).filter fun c => c == '+' || c == '-'
      let used := used ++ e :: sign
      let place := pos + used.length
      let run := allDigits .decimal (rest'.drop sign.length)
      let notices := notices ++ separatorNotices run place
      if rest'.isEmpty then ⟨.bad ⟨place, .numberWithoutExponent⟩ place, used, [], notices⟩
      else if run.digits.isEmpty then
        ⟨missingDigit .decimal place run, used ++ run.used, run.rest, notices⟩
      else
        let size : Int := digitsNumber 10 run.digits
        let exponent := if sign == ['-'] then -size else size
        endNumber (.num (decimalText digits scale exponent)) pos (used ++ run.used) run.rest notices
    else endNumber (.num (decimalText digits scale 0)) pos used rest notices
  | [] => endNumber (.num (decimalText digits scale 0)) pos used rest notices

def numberFraction (pos : Nat) (whole : DigitRun) (notices : List Notice) : Found :=
  match whole.rest with
  | '.' :: rest =>
    let run := allDigits .decimal rest
    let used := whole.used ++ '.' :: run.used
    numberExponent pos (whole.digits ++ run.digits) run.digits.length used run.rest
      (notices ++ separatorNotices run (pos + whole.used.length + 1))
  | rest => numberExponent pos whole.digits 0 whole.used rest notices

/-- A literal that starts with a digit or a point. -/
def decimalNumber (pos : Nat) (text : List Char) : Found :=
  let whole := allDigits .decimal text
  let notices := separatorNotices whole pos
  match whole.rest with
  | 'n' :: left =>
    let used := whole.used ++ ['n']
    ⟨.bigint (toString (digitsNumber 10 whole.digits)) (String.ofList used), used, left, notices⟩
  | rest =>
    if whole.used.head? == some '0' && 1 < whole.used.length then
      if whole.used.any fun c => c == '8' || c == '9' then
        numberFraction pos whole (notices ++ [⟨.strict, ⟨pos, .legacyDecimal⟩⟩])
      else
        endNumber (.num (integerText 8 whole.digits)) pos whole.used rest
          (notices ++ [⟨.strict, ⟨pos, .legacyOctal⟩⟩])
    else numberFraction pos whole notices

def number (pos : Nat) (text : List Char) : Found :=
  match text with
  | '0' :: 'x' :: rest => radixNumber .hexadecimal pos '0' 'x' rest
  | '0' :: 'X' :: rest => radixNumber .hexadecimal pos '0' 'X' rest
  | '0' :: 'o' :: rest => radixNumber .octal pos '0' 'o' rest
  | '0' :: 'O' :: rest => radixNumber .octal pos '0' 'O' rest
  | '0' :: 'b' :: rest => radixNumber .binary pos '0' 'b' rest
  | '0' :: 'B' :: rest => radixNumber .binary pos '0' 'B' rest
  | _ => decimalNumber pos text

end GrammarEmbed.Token
