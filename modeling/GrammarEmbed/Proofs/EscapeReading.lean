import GrammarEmbed.Text.StringLiteral
import GrammarEmbed.Token.Literal

/-!
What the reader of string literals makes of one character or one escape at the front of a text. A
body that is read behind some characters is the body behind them, extended by what they stand for.
-/

namespace GrammarEmbed.Token

open Text (hexValue? isHexDigit spellsSurrogate)

section Digits

private theorem char_le_iff {a b : Char} : a ≤ b ↔ a.toNat ≤ b.toNat := Iff.rfl

theorem isSome_hexValue (c : Char) : (hexValue? c).isSome = isHexDigit c := by
  have digit : c.isDigit = (decide ('0' ≤ c) && decide (c ≤ '9')) := rfl
  unfold isHexDigit hexValue?
  grind

theorem hexValue_lt {c : Char} {v : Nat} (value : hexValue? c = some v) : v < 16 := by
  have marks : '9'.toNat = 57 ∧ 'f'.toNat = 102 ∧ 'F'.toNat = 70 := by decide
  simp only [hexValue?, char_le_iff] at value
  grind

theorem exists_hexValue {c : Char} (digit : isHexDigit c = true) :
    ∃ v, hexValue? c = some v ∧ v < 16 := by
  obtain ⟨v, value⟩ := Option.isSome_iff_exists.mp ((isSome_hexValue c).trans digit)
  exact ⟨v, value, hexValue_lt value⟩

theorem le_hexValue {c : Char} {v : Nat} (value : hexValue? c = some v)
    (high : ('0' ≤ c && c ≤ '7') = false) : 8 ≤ v := by
  have marks : '0'.toNat = 48 ∧ '7'.toNat = 55 ∧ 'a'.toNat = 97 ∧ 'A'.toNat = 65 := by decide
  simp only [Bool.and_eq_false_iff, decide_eq_false_iff_not, hexValue?, char_le_iff] at high value
  grind

theorem isDigitOf_hexadecimal (c : Char) : isDigitOf .hexadecimal c = isHexDigit c := by
  rw [← isSome_hexValue, isDigitOf]
  cases value : hexValue? c with
  | none => rfl
  | some v => simp [Radix.base, hexValue_lt value]

theorem toNat_lt_of_hexadecimal {c : Char} (digit : isDigitOf .hexadecimal c = true) :
    c.toNat < 128 := by
  have marks : '9'.toNat = 57 ∧ 'f'.toNat = 102 ∧ 'F'.toNat = 70 := by decide
  simp only [isDigitOf, hexValue?, char_le_iff] at digit
  grind

theorem isDigit_of_octal {c : Char} (octal : isDigitOf .octal c = true) : c.isDigit = true := by
  have digit : c.isDigit = (decide ('0' ≤ c) && decide (c ≤ '9')) := rfl
  have marks : '9'.toNat = 57 ∧ 'a'.toNat = 97 ∧ 'A'.toNat = 65 := by decide
  simp only [isDigitOf, hexValue?, Radix.base] at octal
  simp only [digit, char_le_iff] at octal ⊢
  grind

variable {radix : Radix}

theorem ne_underscore {c : Char} (digit : isDigitOf radix c = true) : c ≠ '_' := by
  rintro rfl
  cases digit

theorem digitRun_zero (text : List Char) : digitRun radix 0 text = ⟨[], text, true⟩ := by
  cases text <;> rfl

theorem digitRun_cons {c : Char} (digit : isDigitOf radix c = true) (limit : Nat)
    (rest : List Char) :
    digitRun radix (limit + 1) (c :: rest) = (digitRun radix limit rest).push c true := by
  simp [digitRun, ne_underscore digit, digit]

/-- Digits at the front are taken while the limit allows it. -/
theorem digitRun_append {digits : List Char} (all : ∀ c ∈ digits, isDigitOf radix c = true)
    (limit : Nat) (text : List Char) :
    digitRun radix (digits.length + limit) (digits ++ text) =
      { digitRun radix limit text with used := digits ++ (digitRun radix limit text).used } := by
  induction digits with
  | nil => simp
  | cons c digits ih =>
    rw [List.length_cons, Nat.add_right_comm, List.cons_append,
      digitRun_cons (all c List.mem_cons_self),
      ih fun d member => all d (List.mem_cons_of_mem c member)]
    simp [DigitRun.push]

/-- A text that does not go on with digits or separators. -/
def EndsDigits (radix : Radix) (text : List Char) : Prop :=
  ∀ c ∈ text.head?, isDigitOf radix c = false ∧ c ≠ '_'

theorem digitRun_of_ends {text : List Char} (ends : EndsDigits radix text) (limit : Nat) :
    digitRun radix limit text = ⟨[], text, true⟩ := by
  cases limit with
  | zero => exact digitRun_zero text
  | succ limit =>
    cases text with
    | nil => rfl
    | cons c rest =>
      obtain ⟨noDigit, other⟩ := ends c rfl
      simp [digitRun, noDigit, other]

theorem digits_ne_nil {text : List Char} (more : ¬EndsDigits radix text)
    (fits : (digitRun radix text.length text).fits = true) :
    (digitRun radix text.length text).digits ≠ [] := by
  cases text with
  | nil => simp [EndsDigits] at more
  | cons c rest =>
    have first {d : Char} (digit : isDigitOf radix d = true) (limit : Nat) (behind : List Char) :
        d ∈ (digitRun radix (limit + 1) (d :: behind)).digits := by
      simp [digitRun_cons digit, DigitRun.push, DigitRun.digits, ne_underscore digit]
    by_cases digit : isDigitOf radix c = true
    · exact List.ne_nil_of_mem (first digit _ rest)
    · -- a separator fits only before a digit
      obtain rfl : c = '_' := by simpa [EndsDigits, digit] using more
      cases rest with
      | nil => cases fits
      | cons d behind =>
        have run : digitRun radix ('_' :: d :: behind).length ('_' :: d :: behind) =
            (digitRun radix (behind.length + 2) (d :: behind)).push '_' (isDigitOf radix d) := rfl
        rw [run] at fits ⊢
        have digit : isDigitOf radix d = true := (Bool.and_eq_true_iff.mp fits).1
        exact List.ne_nil_of_mem (first digit _ behind)

theorem digits_eq {used : List Char} (all : ∀ c ∈ used, isDigitOf radix c = true)
    (rest : List Char) (fits : Bool) : (DigitRun.mk used rest fits).digits = used := by
  rw [DigitRun.digits, List.filter_eq_self]
  intro c member
  simpa using ne_underscore (all c member)

/-- Every digit more makes a number sixteen times as large. -/
theorem le_digitsNumber_append (digits : List Char) {more : List Char} (nonempty : more ≠ []) :
    digitsNumber 16 digits * 16 ≤ digitsNumber 16 (digits ++ more) := by
  have grows (text : List Char) (n : Nat) :
      n ≤ text.foldl (fun n c => n * 16 + (hexValue? c).getD 0) n := by
    induction text generalizing n with
    | nil => exact Nat.le_refl n
    | cons c text ih => exact Nat.le_trans (by dsimp only; omega) (ih _)
  cases more with
  | nil => contradiction
  | cons c more =>
    rw [digitsNumber, digitsNumber, List.foldl_append, List.foldl_cons]
    exact Nat.le_trans (Nat.le_add_right _ _) (grows more _)

private theorem ofNat_ne_backslash {n : Nat} (high : 0xdfff < n) : Char.ofNat n ≠ '\\' := by
  intro same
  have number : (Char.ofNat n).toNat = n ∨ (Char.ofNat n).toNat = 0 := by
    by_cases valid : n.isValidChar
    · exact .inl (congrArg Char.toNat (dif_pos valid))
    · exact .inr (congrArg Char.toNat (dif_neg valid))
  have code : (Char.ofNat n).toNat = 92 := congrArg Char.toNat same
  omega

end Digits

/-- The four digits of a surrogate. -/
structure SurrogateDigits (digits : List Char) : Prop where
  length : digits.length = 4
  all : ∀ c ∈ digits, isDigitOf .hexadecimal c = true
  surrogate : isSurrogate (digitsNumber 16 digits) = true

theorem exists_surrogateDigits {text : List Char} (spelled : spellsSurrogate text = true) :
    ∃ digits rest, text = digits ++ rest ∧ SurrogateDigits digits := by
  unfold spellsSurrogate at spelled
  split at spelled
  case h_2 => cases spelled
  case h_1 a b c d rest =>
    simp only [Bool.and_eq_true, Bool.or_eq_true, beq_iff_eq, Bool.not_eq_true'] at spelled
    obtain ⟨⟨⟨⟨first, second⟩, high⟩, third⟩, fourth⟩ := spelled
    refine ⟨[a, b, c, d], rest, rfl, rfl, ?_, ?_⟩
    · have leading : isHexDigit a = true := by rcases first with rfl | rfl <;> rfl
      simp [isDigitOf_hexadecimal, leading, second, third, fourth]
    · have thirteen : hexValue? a = some 13 := by rcases first with rfl | rfl <;> rfl
      obtain ⟨v, valueB, _⟩ := exists_hexValue second
      obtain ⟨w, valueC, _⟩ := exists_hexValue third
      obtain ⟨x, valueD, _⟩ := exists_hexValue fourth
      have eight := le_hexValue valueB high
      simp [isSurrogate, digitsNumber, thirteen, valueB, valueC, valueD]
      omega

section Escapes

theorem all_ne_brace {text : List Char} (none : '\x7d' ∉ text) :
    ∀ c ∈ text, (c != '\x7d') = true := by
  intro c member
  rw [bne_iff_ne]
  rintro rfl
  exact none member

theorem unicodeEscape_append {digits : List Char} (length : digits.length = 4)
    (all : ∀ c ∈ digits, isDigitOf .hexadecimal c = true) (rest : List Char) :
    unicodeEscape (digits ++ rest) =
      if isSurrogate (digitsNumber 16 digits) then
        .plain ('u' :: digits) ('\\' :: 'u' :: digits)
      else .plain ('u' :: digits) [Char.ofNat (digitsNumber 16 digits)] := by
  have run := digitRun_append all 0 rest
  rw [digitRun_zero, length] at run
  simp only [List.append_nil] at run
  have taken : (digits ++ rest).take 4 = digits := by rw [← length, List.take_left]
  have opening : "\\u".toList = ['\\', 'u'] := by decide
  have unbraced : unicodeEscape (digits ++ rest) = fourDigitEscape (digits ++ rest) := by
    unfold unicodeEscape
    split
    case h_2 => rfl
    case h_1 brace =>
      cases digits with
      | nil => cases length
      | cons c digits =>
        cases brace
        cases all _ List.mem_cons_self
  simp only [unbraced, fourDigitEscape, run, digits_eq all, length, taken, opening,
    bne_self_eq_false, Bool.false_eq_true, if_false]
  split <;> rfl

theorem twoDigitEscape_append (digits : List Char) (length : digits.length = 2)
    (all : ∀ c ∈ digits, isDigitOf .hexadecimal c = true) (rest : List Char) :
    twoDigitEscape (digits ++ rest) =
      .plain ('x' :: digits) [Char.ofNat (digitsNumber 16 digits)] := by
  have run := digitRun_append all 0 rest
  rw [digitRun_zero, length] at run
  simp only [List.append_nil] at run
  simp only [twoDigitEscape, run, digits_eq all, length]
  rfl

variable {digits : List Char} (spelled : SurrogateDigits digits) (text : List Char)

include spelled

/-- The run of digits of a braced escape that starts with those of a surrogate. -/
theorem SurrogateDigits.allDigits :
    Token.allDigits .hexadecimal (digits ++ text) =
      { digitRun .hexadecimal text.length text with
        used := digits ++ (digitRun .hexadecimal text.length text).used } := by
  rw [Token.allDigits, List.length_append, digitRun_append spelled.all]

/-- Half of a surrogate pair keeps its spelling. -/
theorem SurrogateDigits.escape_unbraced :
    escape ('u' :: digits ++ text) = .plain ('u' :: digits) ('\\' :: 'u' :: digits) := by
  have read := unicodeEscape_append spelled.length spelled.all text
  rw [spelled.surrogate, if_pos rfl] at read
  exact read

theorem SurrogateDigits.ne_nil : digits ≠ [] := by
  rintro rfl
  cases spelled.length

theorem SurrogateDigits.no_brace : '\x7d' ∉ digits := by
  intro member
  cases spelled.all _ member

/-- Half of a surrogate pair keeps its spelling, with what stands before the brace. -/
theorem SurrogateDigits.bracedEscape_of_ends (ends : EndsDigits .hexadecimal text) :
    bracedEscape (digits ++ text) =
      let gap := (text.take 2).takeWhile (· != '\x7d')
      if (text.drop gap.length).head? = some '\x7d' then
        .plain ('u' :: '\x7b' :: (digits ++ gap ++ ['\x7d']))
          ('\\' :: 'u' :: '\x7b' :: (digits ++ gap ++ ['\x7d']))
      else .faulty ('u' :: '\x7b' :: (digits ++ gap)) .invalidUnicodeEscape 3 := by
  have range := spelled.surrogate
  have run := spelled.allDigits text
  have small : ¬0x100000000 ≤ digitsNumber 16 digits ∧ ¬0x10ffff < digitsNumber 16 digits := by
    simp only [isSurrogate, Bool.and_eq_true, decide_eq_true_eq] at range
    omega
  have taken : ((digits ++ text).take 6).takeWhile (· != '\x7d') =
      digits ++ (text.take 2).takeWhile (· != '\x7d') := by
    rw [List.take_append, spelled.length, List.take_of_length_le (by simp [spelled.length]),
      List.takeWhile_append_of_pos (all_ne_brace spelled.no_brace)]
  rw [digitRun_of_ends ends] at run
  simp only [List.append_nil] at run
  have someDigit : digits.isEmpty = false := by simpa using spelled.ne_nil
  have behind (gap : List Char) : (digits ++ text).drop (digits ++ gap).length =
      text.drop gap.length := by
    rw [List.length_append, List.drop_append, List.drop_of_length_le (by omega)]
    simp
  simp only [bracedEscape, run, digits_eq spelled.all, small, taken, range, someDigit, behind,
    decide_false, Bool.or_self, Bool.false_eq_true, if_true, if_false]
  split
  case h_1 closing =>
    rw [closing]
    rfl
  case h_2 unclosed =>
    rw [if_neg]
    · rfl
    · intro head
      obtain ⟨tail, closing⟩ := List.head?_eq_some_iff.mp head
      exact unclosed tail closing

theorem SurrogateDigits.escape_braced {gap : List Char} (short : gap.length ≤ 2)
    (inside : '\x7d' ∉ gap) (rest : List Char)
    (ends : EndsDigits .hexadecimal (gap ++ '\x7d' :: rest)) :
    escape ('u' :: '\x7b' :: (digits ++ gap ++ ['\x7d']) ++ rest) =
      .plain ('u' :: '\x7b' :: (digits ++ gap ++ ['\x7d']))
        ('\\' :: 'u' :: '\x7b' :: (digits ++ gap ++ ['\x7d'])) := by
  have braced : escape ('u' :: '\x7b' :: (digits ++ gap ++ ['\x7d']) ++ rest) =
      bracedEscape (digits ++ (gap ++ '\x7d' :: rest)) := by
    rw [show digits ++ (gap ++ '\x7d' :: rest) = digits ++ gap ++ ['\x7d'] ++ rest by simp]
    rfl
  have found : ((gap ++ '\x7d' :: rest).take 2).takeWhile (· != '\x7d') = gap := by
    rw [List.take_append, List.take_of_length_le short,
      List.takeWhile_append_of_pos (all_ne_brace inside)]
    cases 2 - gap.length <;> simp
  rw [braced, spelled.bracedEscape_of_ends _ ends]
  simp [found]

/-- With more digits than four, an escape in braces stands for a character behind the surrogates,
or for nothing. -/
theorem SurrogateDigits.bracedEscape_of_digits (more : ¬EndsDigits .hexadecimal text)
    (fitting : (bracedEscape (digits ++ text)).misplaced = none) {value : List Char}
    (read : (bracedEscape (digits ++ text)).value = .ok value) : ∃ x ≠ '\\', value = [x] := by
  have run := spelled.allDigits text
  have someDigit := digits_ne_nil more
  generalize digitRun .hexadecimal text.length text = tail at run someDigit
  have spelling : ({ tail with used := digits ++ tail.used } : DigitRun).digits =
      digits ++ tail.digits := by
    have own := digits_eq spelled.all [] true
    simp only [DigitRun.digits] at own
    simp only [DigitRun.digits, List.filter_append, own]
  have fits : tail.fits = true := by
    simp only [bracedEscape, run, Escape.withDigits] at fitting
    simpa using fitting
  have high : 0xdfff < digitsNumber 16 (digits ++ tail.digits) := by
    have range := spelled.surrogate
    have grown := le_digitsNumber_append digits (someDigit fits)
    simp only [isSurrogate, Bool.and_eq_true, decide_eq_true_eq] at range
    omega
  have plain : isSurrogate (digitsNumber 16 (digits ++ tail.digits)) = false := by
    simp [isSurrogate, high]
  -- what is left are the two cases of the closing brace
  refine ⟨_, ofNat_ne_backslash high, ?_⟩
  simp only [bracedEscape, run, Escape.withDigits, spelling, plain, Bool.false_eq_true,
    if_false] at read
  split at read
  · cases read
  · split at read
    · cases read
    · split at read <;> cases read
      rfl

/-- An escape in braces whose value starts with a backslash has kept its spelling. -/
theorem SurrogateDigits.exists_gap {value : List Char}
    (fitting : (bracedEscape (digits ++ text)).misplaced = none)
    (read : (bracedEscape (digits ++ text)).value = .ok value) :
    (∃ x ≠ '\\', value = [x]) ∨
    ∃ gap rest, text = gap ++ '\x7d' :: rest ∧ gap.length ≤ 2 ∧ '\x7d' ∉ gap ∧
      EndsDigits .hexadecimal text ∧
      value = '\\' :: 'u' :: '\x7b' :: (digits ++ gap ++ ['\x7d']) := by
  by_cases ends : EndsDigits .hexadecimal text
  · rw [spelled.bracedEscape_of_ends text ends] at read
    dsimp only at read
    split at read
    case isFalse => cases read
    case isTrue head =>
      cases read
      obtain ⟨rest, closing⟩ := List.head?_eq_some_iff.mp head
      have before := List.takeWhile_prefix (l := text.take 2) (· != '\x7d')
      have split := List.prefix_iff_eq_append.mp (before.trans (List.take_prefix 2 text))
      rw [closing] at split
      refine .inr ⟨_, rest, split.symm, ?_, ?_, ends, rfl⟩
      · exact Nat.le_trans before.length_le (List.length_take_le 2 text)
      · intro member
        simpa using List.all_eq_true.mp List.all_takeWhile _ member
  · exact .inl (spelled.bracedEscape_of_digits text ends fitting read)

end Escapes

section Bodies

/-- Puts characters, with their spelling, in front of a body that was read behind them. -/
def StringBody.extend (body : StringBody) (value used : List Char) : StringBody :=
  { body with value := value ++ body.value, used := used ++ body.used }

theorem stringBody_skip (quote : Char) (used rest : List Char) (pos : Nat) :
    ∃ later, stringBody quote used.length pos (used ++ rest) =
      (stringBody quote 0 later rest).extend [] used := by
  induction used generalizing pos with
  | nil => exact ⟨pos, rfl⟩
  | cons c used ih =>
    obtain ⟨later, skipped⟩ := ih (pos + c.utf8Size)
    refine ⟨later, ?_⟩
    rw [List.length_cons, List.cons_append, stringBody, skipped]
    rfl

variable {quote : Char}

theorem stringBody_cons {c : Char} (notQuote : c ≠ quote) (notBackslash : c ≠ '\\')
    (sameLine : c ≠ '\n' ∧ c ≠ '\r') (rest : List Char) (pos : Nat) :
    ∃ later, stringBody quote 0 pos (c :: rest) =
      (stringBody quote 0 later rest).extend [c] [c] := by
  refine ⟨pos + c.utf8Size, ?_⟩
  rw [stringBody]
  simp [notQuote, notBackslash, sameLine, StringBody.extend, StringBody.push]

theorem stringBody_escape (other : quote ≠ '\\') {used value rest : List Char}
    (read : escape (used ++ rest) = .plain used value) (pos : Nat) :
    ∃ later, stringBody quote 0 pos ('\\' :: (used ++ rest)) =
      (stringBody quote 0 later rest).extend value ('\\' :: used) := by
  obtain ⟨later, skipped⟩ := stringBody_skip quote used rest (pos + 1)
  refine ⟨later, ?_⟩
  rw [stringBody]
  simp [other.symm, read, Escape.plain, skipped, Escape.notices, StringBody.extend,
    StringBody.push]

/-- An escape that is read without a fault gives the start of the value. -/
theorem exists_value_of_stringBody (other : quote ≠ '\\') {rest value used behind : List Char}
    {pos : Nat} {closed : Bool}
    (read : stringBody quote 0 pos ('\\' :: rest) = ⟨value, used, behind, closed, [], none⟩) :
    ∃ front back, (escape rest).value = .ok front ∧ (escape rest).misplaced = none ∧
      value = front ++ back := by
  rw [stringBody] at read
  simp only [beq_iff_eq, other.symm, if_false, beq_self_eq_true, if_true] at read
  split at read
  case h_2 => cases congrArg StringBody.error read
  case h_1 front ok =>
    refine ⟨front, _, ok, ?_, (congrArg StringBody.value read).symm⟩
    have quiet := congrArg StringBody.notices read
    cases placed : (escape rest).misplaced with
    | none => rfl
    | some offset => simp [Escape.notices, placed] at quiet

end Bodies

end GrammarEmbed.Token
