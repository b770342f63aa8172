/-!
Finite binary floating point numbers with 53 bit significands, in exact arithmetic: rounding a
ratio, the operations the number reader needs, and the shortest decimal digits that read back.
-/

namespace GrammarEmbed.Json

/-- The number `±mantissa · 2^exponent`. Zero keeps its sign. -/
structure Binary64 where
  negative : Bool
  mantissa : Nat
  exponent : Int
deriving DecidableEq, Repr, Inhabited

namespace Binary64

def minExponent : Int := -1074

def maxExponent : Int := 971

def twoTo (n : Nat) : Nat := Nat.pow 2 n

def tenTo (n : Nat) : Nat := Nat.pow 10 n

/-- `n · 2^e` as a fraction. -/
def scaled (n : Nat) (e : Int) : Nat × Nat :=
  if 0 ≤ e then (n * twoTo e.toNat, 1) else (n, twoTo (-e).toNat)

/-- The nearest integer to `num / den`, a half going to the even neighbour. -/
def roundHalfEven (num den : Nat) : Nat :=
  let q := num / den
  let r := num % den
  if 2 * r < den then q else if den < 2 * r then q + 1 else if q % 2 == 0 then q else q + 1

/-- The exponent of the leading bit of `num / den`. -/
def leadingBit (num den : Nat) : Int :=
  let guess : Int := (num.log2 : Int) - (den.log2 : Int)
  let reaches :=
    if 0 ≤ guess then den * twoTo guess.toNat ≤ num else den ≤ num * twoTo (-guess).toNat
  if reaches then guess else guess - 1

/-- The binary64 nearest to `num / den`, a half going to the even significand; none if it is too
large. -/
def ofRatio (negative : Bool) (num den : Nat) : Option Binary64 :=
  if num == 0 then some ⟨negative, 0, 0⟩
  else
    let e := max (leadingBit num den - 52) minExponent
    let m := if 0 ≤ e then roundHalfEven num (den * twoTo e.toNat)
      else roundHalfEven (num * twoTo (-e).toNat) den
    let (m, e) := if m == 0x20000000000000 then (0x10000000000000, e + 1) else (m, e)
    if m == 0 then some ⟨negative, 0, 0⟩
    else if maxExponent < e then none
    else some ⟨negative, m, e⟩

def isZero (x : Binary64) : Bool :=
  x.mantissa == 0

/-- Product of magnitudes, with the sign of the first factor. -/
def mul (x y : Binary64) : Option Binary64 :=
  let (num, den) := scaled (x.mantissa * y.mantissa) (x.exponent + y.exponent)
  ofRatio x.negative num den

/-- Quotient of magnitudes, with the sign of the dividend. -/
def div (x y : Binary64) : Option Binary64 :=
  let (xn, xd) := scaled x.mantissa x.exponent
  let (yn, yd) := scaled y.mantissa y.exponent
  ofRatio x.negative (xn * yd) (xd * yn)

def tenPower (n : Nat) : Option Binary64 :=
  ofRatio false (tenTo n) 1

/-- Decimal digits with the power of ten of the last one. -/
structure Digits where
  value : Nat
  power : Int
deriving DecidableEq, Repr

/-- `value · 10^power` against the fraction `num / den`. -/
def Digits.compare (d : Digits) (num den : Nat) : Ordering :=
  if 0 ≤ d.power then Ord.compare (d.value * tenTo d.power.toNat * den) num
  else Ord.compare (d.value * den) (num * tenTo (-d.power).toNat)

/-- The interval of reals that round to `x`, as two fractions over a common denominator, and the
value itself over the same one. -/
def interval (x : Binary64) : Nat × Nat × Nat × Nat :=
  let narrow := x.mantissa == 0x10000000000000 && minExponent < x.exponent
  let lower := if narrow then 4 * x.mantissa - 1 else 4 * x.mantissa - 2
  let e := x.exponent - 2
  let up := if 0 ≤ e then twoTo e.toNat else 1
  let den := if 0 ≤ e then 1 else twoTo (-e).toNat
  (lower * up, 4 * x.mantissa * up, (4 * x.mantissa + 2) * up, den)

/-- Whether the digits read back as `x`. -/
def readsBack (x : Binary64) (d : Digits) : Bool :=
  let (low, _, high, den) := x.interval
  let inclusive := x.mantissa % 2 == 0
  (match d.compare low den with
    | .gt => true
    | .eq => inclusive
    | .lt => false) &&
  (match d.compare high den with
    | .lt => true
    | .eq => inclusive
    | .gt => false)

/-- The power of ten of the leading decimal digit of `num / den`, searched upward from `start`. -/
def leadingPower (num den : Nat) : Nat → Int → Int
  | 0, p => p
  | fuel + 1, p =>
    if (Digits.mk 1 (p + 1)).compare num den == .gt then p else leadingPower num den fuel (p + 1)

/-- Of the two decimals with last digit at `power` around `x`, the nearer one that reads back. -/
def candidate? (x : Binary64) (power : Int) : Option Digits :=
  let (_, num, _, den) := x.interval
  let (num, den) := if 0 ≤ power then (num, den * tenTo power.toNat)
    else (num * tenTo (-power).toNat, den)
  let below : Digits := ⟨num / den, power⟩
  let above : Digits := ⟨num / den + 1, power⟩
  let nearBelow := 2 * (num % den) < den || (2 * (num % den) == den && (num / den) % 2 == 0)
  match x.readsBack below, x.readsBack above with
  | true, true => some (if nearBelow then below else above)
  | true, false => some below
  | false, true => some above
  | false, false => none

/-- Tries ever finer last digits until one reads back. -/
def searchDigits (x : Binary64) : Nat → Int → Digits
  | 0, power => ⟨0, power⟩
  | fuel + 1, power =>
    match x.candidate? power with
    | some d => d
    | none => searchDigits x fuel (power - 1)

def Digits.trim : Nat → Digits → Digits
  | 0, d => d
  | fuel + 1, d =>
    if d.value != 0 && d.value % 10 == 0 then trim fuel ⟨d.value / 10, d.power + 1⟩ else d

/-- The fewest digits that read back as `x`, of those the nearest. -/
def shortest (x : Binary64) : Digits :=
  let (_, num, _, den) := x.interval
  Digits.trim 400 (searchDigits x 20 (leadingPower num den 700 (-330)))

/-- Digits with a point after the first `before` of them, padded with zeros on either side. -/
def positional (digits : List Char) (before : Int) : List Char :=
  if before ≤ 0 then '0' :: '.' :: (List.replicate (-before).toNat '0' ++ digits)
  else if digits.length ≤ before.toNat then
    digits ++ List.replicate (before.toNat - digits.length) '0' ++ ['.', '0']
  else digits.take before.toNat ++ '.' :: digits.drop before.toNat

/-- Digits as a significand with one digit before the point, and a power of ten. -/
def scientific (digits : List Char) (before : Int) : List Char :=
  let fraction := digits.drop 1
  digits.take 1 ++ (if fraction.isEmpty then [] else '.' :: fraction) ++
    'e' :: (toString (before - 1)).toList

/-- The fewest digits that read back, always positional, without a point behind an integer. -/
def plain (x : Binary64) : String :=
  let sign := if x.negative then "-" else ""
  if x.isZero then sign ++ "0"
  else
    let d := x.shortest
    let digits := (toString d.value).toList
    if 0 ≤ d.power then sign ++ String.ofList (digits ++ List.replicate d.power.toNat '0')
    else sign ++ String.ofList (positional digits (d.power + digits.length))

/-- Positional while the leading digit stands for a power of ten from -5 to 15, scientific
beyond; always with the fewest digits that read back. -/
def render (x : Binary64) : String :=
  let sign := if x.negative then "-" else ""
  if x.isZero then sign ++ "0.0"
  else
    let d := x.shortest
    let digits := (toString d.value).toList
    let before := d.power + digits.length
    sign ++ String.ofList
      (if -5 < before && before ≤ 16 then positional digits before else scientific digits before)

end Binary64

end GrammarEmbed.Json
