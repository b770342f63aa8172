import GrammarEmbed.Proofs.EscapeReading

/-!
Which texts are read back from the literal that is written for them. All are, but for those where
the escape of a surrogate is opened with a brace and not closed in time.
-/

namespace GrammarEmbed.Text

open Token (escape stringBody SurrogateDigits EndsDigits)

def IsPlain (quote x : Char) : Prop :=
  literalBody quote [x] = [x]

instance (quote x : Char) : Decidable (IsPlain quote x) :=
  inferInstanceAs (Decidable (_ = _))

/-- What may follow the digits of a surrogate in braces: after at most two plain characters, which
do not go on with the digits, the closing brace. -/
def Closes (quote : Char) (text : List Char) : Prop :=
  let gap := text.takeWhile (· != '\x7d')
  gap.length ≤ 2 ∧ gap.length < text.length ∧ (∀ x ∈ gap, IsPlain quote x) ∧
    ∀ x ∈ gap.head?, isHexDigit x = false ∧ x ≠ '_'

-- The search may go through all characters unless it is told where to look.
instance (quote : Char) (text : List Char) : Decidable (Closes quote text) :=
  let gap := text.takeWhile (· != '\x7d')
  have : Decidable (∀ x ∈ gap, IsPlain quote x) := List.decidableBAll _ gap
  have : Decidable (∀ x ∈ gap.head?, isHexDigit x = false ∧ x ≠ '_') :=
    Option.decidableForallMem gap.head?
  inferInstanceAs (Decidable (_ ∧ _ ∧ _ ∧ _))

/-- What follows the digits of a surrogate in braces at the front of a text. -/
def opened? : List Char → Option (List Char)
  | '\\' :: 'u' :: '\x7b' :: rest => if spellsSurrogate rest then some (rest.drop 4) else none
  | _ => none

/-- A text in which every escape of a surrogate in braces is closed. -/
def Sealed (quote : Char) (text : List Char) : Prop :=
  ∀ place, place <:+ text → ∀ rest ∈ opened? place, Closes quote rest

theorem sealed_cons {quote c : Char} {text : List Char} :
    Sealed quote (c :: text) ↔
      (∀ rest ∈ opened? (c :: text), Closes quote rest) ∧ Sealed quote text := by
  simp only [Sealed, List.suffix_cons_iff]
  constructor
  · intro all
    exact ⟨all _ (.inl rfl), fun place within => all place (.inr within)⟩
  · rintro ⟨first, later⟩ place (rfl | within)
    · exact first
    · exact later place within

instance decidableSealed (quote : Char) : (text : List Char) → Decidable (Sealed quote text)
  | [] => isTrue fun place within => by simp [List.suffix_nil.mp within, opened?]
  | _ :: text =>
    have := decidableSealed quote text
    decidable_of_iff' _ sealed_cons

/-- Without a backslash nothing is opened. -/
theorem sealed_append {quote : Char} {front : List Char} (none : ∀ c ∈ front, c ≠ '\\')
    (text : List Char) : Sealed quote (front ++ text) ↔ Sealed quote text := by
  induction front with
  | nil => rfl
  | cons c front ih =>
    have unopened : opened? (c :: (front ++ text)) = Option.none := by
      have other := none c List.mem_cons_self
      unfold opened?
      split
      · simp_all
      · rfl
    rw [List.cons_append, sealed_cons, unopened,
      ih fun d member => none d (List.mem_cons_of_mem c member)]
    simp

section Spelling

variable {quote : Char}

def IsQuote (quote : Char) : Prop :=
  quote = '"' ∨ quote = '\''

/-- The characters that spell `c` behind a backslash. A null must not run into a digit. -/
def Escapes (used : List Char) (c : Char) (rest : List Char) : Prop :=
  ∀ text : List Char, (∀ x ∈ text.head?, x.isDigit = true → ∃ more, rest = x :: more) →
    escape (used ++ text) = .plain used [c]

theorem escapes_null {rest : List Char} (noDigit : ∀ x ∈ rest.head?, x.isDigit = false) :
    Escapes ['0'] '\x00' rest := by
  intro text follows
  have noOctal : text.head?.any (Token.isDigitOf .octal) = false := by
    rw [Option.any_eq_false]
    intro x here
    refine Bool.eq_false_iff.mpr fun octal => ?_
    obtain ⟨more, rfl⟩ := follows x here (Token.isDigit_of_octal octal)
    simpa [Token.isDigit_of_octal octal] using noDigit x rfl
  change (if '0' == '0' && !text.head?.any (Token.isDigitOf .octal) then _ else _) = _
  simp [noOctal]

theorem escapes_control {c : Char} (control : c.toNat < 0x20) (rest : List Char) :
    Escapes ['x', Nat.digitChar (c.toNat / 16), Nat.digitChar (c.toNat % 16)] c rest := by
  intro text _
  have digit : ∀ n < 0x20, Token.isDigitOf .hexadecimal (Nat.digitChar (n / 16)) = true ∧
      Token.isDigitOf .hexadecimal (Nat.digitChar (n % 16)) = true ∧
      Token.digitsNumber 16 [Nat.digitChar (n / 16), Nat.digitChar (n % 16)] = n := by
    decide
  obtain ⟨first, second, number⟩ := digit c.toNat control
  have read := Token.twoDigitEscape_append [_, _] rfl
    (by simpa using And.intro first second) text
  rw [number, Char.ofNat_toNat] at read
  exact read

theorem escapes_quad {digits : List Char} {c : Char} (length : digits.length = 4)
    (all : digits.all (Token.isDigitOf .hexadecimal) = true)
    (number : Token.digitsNumber 16 digits = c.toNat)
    (plain : Token.isSurrogate c.toNat = false) (rest : List Char) :
    Escapes ('u' :: digits) c rest := by
  intro text _
  have read := Token.unicodeEscape_append length (List.all_eq_true.mp all) text
  rw [number, plain, Char.ofNat_toNat] at read
  exact read

/-- A character is spelled as it is, as a kept backslash, or by an escape. -/
theorem literalChar_cases (c : Char) (rest : List Char) :
    (literalChar c [] = [c] ∧ literalChar c rest = [c]) ∨
    (c = '\\' ∧ keepsBackslash rest = true ∧ literalChar c rest = ['\\']) ∨
    ∃ used, literalChar c rest = '\\' :: used ∧ Escapes used c rest := by
  fun_cases literalChar c rest
  case case1 same next more digit =>
    obtain rfl := beq_iff_eq.mp same
    exact .inr (.inr ⟨_, rfl, escapes_control (c := '\x00') (by decide) _⟩)
  case case2 same next more noDigit =>
    obtain rfl := beq_iff_eq.mp same
    exact .inr (.inr ⟨_, rfl, escapes_null (by simpa using noDigit)⟩)
  case case3 same =>
    obtain rfl := beq_iff_eq.mp same
    exact .inr (.inr ⟨_, rfl, escapes_null (by simp)⟩)
  case case9 same =>
    obtain rfl := beq_iff_eq.mp same
    exact .inl ⟨rfl, rfl⟩
  case case10 same kept => exact .inr (.inl ⟨beq_iff_eq.mp same, kept, rfl⟩)
  case case11 same _ =>
    obtain rfl := beq_iff_eq.mp same
    exact .inr (.inr ⟨_, rfl, fun _ _ => rfl⟩)
  case case12 control => exact .inr (.inr ⟨_, rfl, escapes_control control rest⟩)
  case case13 same | case14 same | case15 same =>
    obtain rfl := beq_iff_eq.mp same
    exact .inr (.inr ⟨_, rfl, escapes_quad rfl rfl rfl rfl rest⟩)
  case case16 =>
    refine .inl ⟨?_, rfl⟩
    simp [literalChar, *]
  case case4 same | case5 same | case6 same | case7 same | case8 same =>
    obtain rfl := beq_iff_eq.mp same
    exact .inr (.inr ⟨_, rfl, fun _ _ => rfl⟩)

/-- What stands in a literal for the first character of a text. -/
theorem literalBody_cons_cases (mark : IsQuote quote) (c : Char) (rest : List Char) :
    (IsPlain quote c ∧ literalBody quote (c :: rest) = c :: literalBody quote rest) ∨
    (c = '\\' ∧ keepsBackslash rest = true ∧
      literalBody quote (c :: rest) = '\\' :: literalBody quote rest) ∨
    ∃ used, literalBody quote (c :: rest) = '\\' :: (used ++ literalBody quote rest) ∧
      Escapes used c rest := by
  simp only [IsPlain, literalBody, List.append_nil]
  by_cases same : c = quote
  · subst same
    refine .inr (.inr ⟨[c], by simp, fun text _ => ?_⟩)
    rcases mark with rfl | rfl <;> rfl
  · by_cases other : c = '"' ∨ c = '\''
    · simp [same, other]
    · simp only [beq_iff_eq, Bool.or_eq_true, same, other, if_false]
      rcases literalChar_cases c rest with
        ⟨alone, here⟩ | ⟨rfl, kept, here⟩ | ⟨used, here, escapes⟩
      · exact .inl ⟨alone, by rw [here]; rfl⟩
      · exact .inr (.inl ⟨rfl, kept, by rw [here]; rfl⟩)
      · exact .inr (.inr ⟨used, by rw [here]; rfl, escapes⟩)

end Spelling

section Reading

variable {quote : Char}

theorem IsPlain.ne_quote {x : Char} (plain : IsPlain quote x) : x ≠ quote := by
  rintro rfl
  simp [IsPlain, literalBody] at plain

theorem IsPlain.ne {x y : Char} (plain : IsPlain quote x) (noMark : y ≠ '"' ∧ y ≠ '\'')
    (long : 1 < (literalChar y []).length) : x ≠ y := by
  rintro rfl
  have notQuote := plain.ne_quote
  have single : literalChar x [] = [x] := by
    simpa [IsPlain, literalBody, notQuote, noMark] using plain
  rw [single] at long
  exact absurd long (Nat.lt_irrefl 1)

theorem IsPlain.ne_backslash {x : Char} (plain : IsPlain quote x) : x ≠ '\\' :=
  plain.ne (by decide) (by decide)

theorem IsPlain.literalBody_cons {x : Char} (plain : IsPlain quote x) (rest : List Char) :
    literalBody quote (x :: rest) = x :: literalBody quote rest := by
  have notBackslash := plain.ne_backslash
  have notNull : x ≠ '\x00' := plain.ne (by decide) (by decide)
  have alone : literalChar x rest = literalChar x [] := by
    simp [literalChar, notNull, notBackslash]
  simp only [IsPlain, literalBody, List.append_nil] at plain
  rw [literalBody, alone, plain]
  rfl

theorem literalBody_append {front : List Char} (plain : ∀ x ∈ front, IsPlain quote x)
    (rest : List Char) : literalBody quote (front ++ rest) = front ++ literalBody quote rest := by
  induction front with
  | nil => rfl
  | cons x front ih =>
    rw [List.cons_append, (plain x List.mem_cons_self).literalBody_cons,
      ih fun y member => plain y (List.mem_cons_of_mem x member), List.cons_append]

theorem isPlain_of_digit (mark : IsQuote quote) {x : Char}
    (digit : Token.isDigitOf .hexadecimal x = true) : IsPlain quote x := by
  have each : ∀ n < 128, Token.isDigitOf .hexadecimal (Char.ofNat n) = true →
      IsPlain '"' (Char.ofNat n) ∧ IsPlain '\'' (Char.ofNat n) := by
    decide
  have both := each x.toNat (Token.toNat_lt_of_hexadecimal digit)
  rw [Char.ofNat_toNat] at both
  rcases mark with rfl | rfl
  · exact (both digit).1
  · exact (both digit).2

theorem isPlain_marks (mark : IsQuote quote) :
    IsPlain quote 'u' ∧ IsPlain quote '\x7b' ∧ IsPlain quote '\x7d' := by
  rcases mark with rfl | rfl <;> exact ⟨rfl, rfl, rfl⟩

theorem all_plain_of_digits (mark : IsQuote quote) {digits : List Char}
    (spelled : SurrogateDigits digits) : ∀ x ∈ digits, IsPlain quote x :=
  fun x member => isPlain_of_digit mark (spelled.all x member)

/-- The literal for a text, with more behind it, is read as that text. -/
def ReadsBack (quote : Char) (pos : Nat) (after text : List Char) : Prop :=
  stringBody quote 0 pos (literalBody quote text ++ quote :: after) =
    ⟨text, literalBody quote text ++ [quote], after, true, [], none⟩

theorem readsBack_append_iff (front used : List Char) {text after : List Char} {pos later : Nat}
    (spelled : literalBody quote (front ++ text) = used ++ literalBody quote text)
    (read : stringBody quote 0 pos (used ++ (literalBody quote text ++ quote :: after)) =
      (stringBody quote 0 later (literalBody quote text ++ quote :: after)).extend front used) :
    ReadsBack quote pos after (front ++ text) ↔ ReadsBack quote later after text := by
  rw [ReadsBack, spelled, List.append_assoc, read, ReadsBack]
  generalize stringBody quote 0 later (literalBody quote text ++ quote :: after) = body
  obtain ⟨value, taken, rest, closed, notices, error⟩ := body
  simp [Token.StringBody.extend]

/-- A digit in front of what follows a character comes from the text itself. -/
theorem head_literalBody (mark : IsQuote quote) (rest after : List Char) :
    ∀ x ∈ (literalBody quote rest ++ quote :: after).head?, x.isDigit = true →
      ∃ more, rest = x :: more := by
  intro x here digit
  cases rest with
  | nil =>
    cases here
    rcases mark with rfl | rfl <;> cases digit
  | cons c rest =>
    rcases literalBody_cons_cases mark c rest with
      ⟨_, spelled⟩ | ⟨rfl, _, spelled⟩ | ⟨_, spelled, _⟩
    all_goals
      rw [spelled] at here
      cases here
    · exact ⟨rest, rfl⟩
    · exact ⟨rest, rfl⟩
    · cases digit

theorem IsQuote.ne_backslash (mark : IsQuote quote) : quote ≠ '\\' := by
  rcases mark with rfl | rfl <;> decide

/-- Any character but a kept backslash is read back. -/
theorem readsBack_cons_iff (mark : IsQuote quote) {c : Char} {rest : List Char}
    (lone : c = '\\' → keepsBackslash rest = false) (pos : Nat) (after : List Char) :
    ∃ later, ReadsBack quote pos after (c :: rest) ↔ ReadsBack quote later after rest := by
  rcases literalBody_cons_cases mark c rest with
    ⟨plain, spelled⟩ | ⟨rfl, kept, _⟩ | ⟨used, spelled, escapes⟩
  · have sameLine : c ≠ '\n' ∧ c ≠ '\r' :=
      ⟨plain.ne (by decide) (by decide), plain.ne (by decide) (by decide)⟩
    obtain ⟨later, read⟩ := Token.stringBody_cons plain.ne_quote plain.ne_backslash sameLine
      (literalBody quote rest ++ quote :: after) pos
    exact ⟨later, readsBack_append_iff [c] [c] spelled read⟩
  · rw [lone rfl] at kept
    cases kept
  · have escape := escapes _ (head_literalBody mark rest after)
    obtain ⟨later, read⟩ := Token.stringBody_escape mark.ne_backslash escape pos
    exact ⟨later, readsBack_append_iff [c] ('\\' :: used) spelled read⟩

theorem literalBody_kept (mark : IsQuote quote) {rest : List Char}
    (kept : keepsBackslash rest = true) :
    literalBody quote ('\\' :: rest) = '\\' :: literalBody quote rest := by
  simp [literalBody, literalChar, mark.ne_backslash.symm, kept]

/-- A kept escape is read back if the reader takes it for its own spelling. -/
theorem readsBack_kept_iff (mark : IsQuote quote) {used text : List Char}
    (plain : ∀ x ∈ used, IsPlain quote x) (kept : keepsBackslash (used ++ text) = true)
    (read : ∀ more, escape (used ++ more) = .plain used ('\\' :: used)) (pos : Nat)
    (after : List Char) :
    ∃ later, ReadsBack quote pos after ('\\' :: (used ++ text)) ↔
      ReadsBack quote later after text := by
  have spelled : literalBody quote ('\\' :: used ++ text) =
      '\\' :: used ++ literalBody quote text := by
    rw [List.cons_append, literalBody_kept mark kept, literalBody_append plain, List.cons_append]
  obtain ⟨later, taken⟩ := Token.stringBody_escape mark.ne_backslash
    (read (literalBody quote text ++ quote :: after)) pos
  exact ⟨later, readsBack_append_iff ('\\' :: used) ('\\' :: used) spelled taken⟩

/-- A backslash that is kept leads the digits of a surrogate, in braces or not. -/
theorem keepsBackslash_cases {rest : List Char} (kept : keepsBackslash rest = true) :
    ∃ digits text, SurrogateDigits digits ∧
      (rest = 'u' :: (digits ++ text) ∧ opened? ('\\' :: rest) = none ∨
        rest = 'u' :: '\x7b' :: (digits ++ text) ∧ opened? ('\\' :: rest) = some text) := by
  unfold keepsBackslash at kept
  split at kept
  case h_1 behind =>
    obtain ⟨digits, text, rfl, spelled⟩ := Token.exists_surrogateDigits kept
    refine ⟨digits, text, spelled, .inr ⟨rfl, ?_⟩⟩
    rw [opened?, if_pos kept, ← spelled.length, List.drop_left]
  case h_2 behind unbraced =>
    obtain ⟨digits, text, rfl, spelled⟩ := Token.exists_surrogateDigits kept
    refine ⟨digits, text, spelled, .inl ⟨rfl, ?_⟩⟩
    unfold opened?
    split
    case h_2 => rfl
    case h_1 rest same => exact absurd (List.cons.inj (List.cons.inj same).2).2 (unbraced rest)
  case h_3 => cases kept

theorem opened_eq_none {c : Char} {rest : List Char}
    (lone : c = '\\' → keepsBackslash rest = false) : opened? (c :: rest) = none := by
  unfold opened?
  split
  case h_2 => rfl
  case h_1 behind same =>
    cases same
    exact if_neg (Bool.eq_false_iff.mp (lone rfl))

theorem endsDigits_brace_iff (gap rest : List Char) :
    EndsDigits .hexadecimal (gap ++ '\x7d' :: rest) ↔
      ∀ x ∈ gap.head?, isHexDigit x = false ∧ x ≠ '_' := by
  cases gap with
  | nil => simp [EndsDigits, Token.isDigitOf_hexadecimal, isHexDigit]
  | cons x gap => simp [EndsDigits, Token.isDigitOf_hexadecimal]

theorem takeWhile_brace {gap : List Char} (inside : '\x7d' ∉ gap) (rest : List Char) :
    (gap ++ '\x7d' :: rest).takeWhile (· != '\x7d') = gap := by
  simp [List.takeWhile_append_of_pos (Token.all_ne_brace inside)]

theorem closes_iff {text : List Char} :
    Closes quote text ↔
      ∃ gap rest, text = gap ++ '\x7d' :: rest ∧ gap.length ≤ 2 ∧ '\x7d' ∉ gap ∧
        (∀ x ∈ gap, IsPlain quote x) ∧ ∀ x ∈ gap.head?, isHexDigit x = false ∧ x ≠ '_' := by
  constructor
  · rintro ⟨short, within, plain, starts⟩
    have split : text.takeWhile (· != '\x7d') ++ text.dropWhile (· != '\x7d') = text :=
      List.takeWhile_append_dropWhile
    have stopped := List.head?_dropWhile_not (· != '\x7d') text
    cases behind : text.dropWhile (· != '\x7d') with
    | nil =>
      rw [behind, List.append_nil] at split
      rw [split] at within
      exact absurd within (Nat.lt_irrefl _)
    | cons x rest =>
      rw [behind] at split stopped
      obtain rfl : x = '\x7d' := by simpa using stopped
      refine ⟨_, rest, split.symm, short, ?_, plain, starts⟩
      intro member
      simpa using List.all_eq_true.mp List.all_takeWhile _ member
  · rintro ⟨gap, rest, rfl, short, inside, plain, starts⟩
    unfold Closes
    rw [takeWhile_brace inside]
    refine ⟨short, ?_, plain, starts⟩
    simp

/-- A backslash is kept before an escape that the reader takes for its own spelling, or before one
in braces that is not closed. -/
theorem kept_cases (mark : IsQuote quote) {rest : List Char} (kept : keepsBackslash rest = true) :
    (∃ used text, rest = used ++ text ∧ (∀ x ∈ used, IsPlain quote x) ∧
      (∀ more, escape (used ++ more) = .plain used ('\\' :: used)) ∧
      ∀ behind ∈ opened? ('\\' :: rest), Closes quote behind) ∨
    ∃ digits text, rest = 'u' :: '\x7b' :: (digits ++ text) ∧ SurrogateDigits digits ∧
      opened? ('\\' :: rest) = some text ∧ ¬Closes quote text := by
  obtain ⟨letter, opener, closer⟩ := isPlain_marks mark
  obtain ⟨digits, text, spelled, ⟨rfl, unopened⟩ | ⟨rfl, opening⟩⟩ := keepsBackslash_cases kept
  · refine .inl ⟨'u' :: digits, text, rfl, ?_, spelled.escape_unbraced, by simp [unopened]⟩
    exact List.forall_mem_cons.mpr ⟨letter, all_plain_of_digits mark spelled⟩
  · by_cases closes : Closes quote text
    · obtain ⟨gap, behind, rfl, short, inside, plain, starts⟩ := closes_iff.mp closes
      refine .inl ⟨'u' :: '\x7b' :: (digits ++ gap ++ ['\x7d']), behind, by simp, ?_, ?_, ?_⟩
      · simp only [List.forall_mem_cons, List.forall_mem_append]
        exact ⟨letter, opener, ⟨all_plain_of_digits mark spelled, plain⟩, closer, by simp⟩
      · intro more
        exact spelled.escape_braced short inside more ((endsDigits_brace_iff gap more).mpr starts)
      · simpa [opening] using closes
    · exact .inr ⟨digits, text, rfl, spelled, opening, closes⟩

section Unclosed

theorem literalBody_doubled (mark : IsQuote quote) {rest : List Char}
    (lone : keepsBackslash rest = false) :
    literalBody quote ('\\' :: rest) = '\\' :: '\\' :: literalBody quote rest := by
  simp [literalBody, literalChar, mark.ne_backslash.symm, lone]

theorem keepsBackslash_brace (x : Char) (rest : List Char) :
    keepsBackslash (x :: '\x7d' :: rest) = false := by
  unfold keepsBackslash
  split
  case h_1 same => cases same
  case h_2 same =>
    cases same
    unfold spellsSurrogate
    split
    case h_1 same =>
      cases same
      rfl
    case h_2 => rfl
  case h_3 => rfl

/-- A character other than a backslash that is spelled with itself in front is plain. -/
theorem plain_of_spelled (mark : IsQuote quote) {x : Char} (other : x ≠ '\\')
    {text behind more : List Char} (same : literalBody quote (x :: text) ++ behind = x :: more) :
    IsPlain quote x ∧ literalBody quote text ++ behind = more := by
  rcases literalBody_cons_cases mark x text with ⟨plain, spelled⟩ | ⟨rfl, _⟩ | ⟨_, spelled, _⟩
  · rw [spelled] at same
    exact ⟨plain, (List.cons.inj same).2⟩
  · contradiction
  · rw [spelled] at same
    exact absurd (List.cons.inj same).1.symm other

/-- Characters before a brace, no more than two, that a literal has in the same place. -/
theorem all_plain_of_spelled (mark : IsQuote quote) {gap text behind more : List Char}
    (short : gap.length ≤ 2)
    (same : literalBody quote (gap ++ '\x7d' :: text) ++ behind = gap ++ '\x7d' :: more) :
    ∀ x ∈ gap, IsPlain quote x := by
  -- a backslash before the brace is doubled, so that the brace comes too late
  have last {x : Char} (here : literalBody quote (x :: '\x7d' :: text) ++ behind =
      x :: '\x7d' :: more) : IsPlain quote x := by
    refine (plain_of_spelled mark ?_ here).1
    rintro rfl
    rw [literalBody_doubled mark rfl] at here
    cases here
  match gap, short with
  | [], _ => simp
  | [x], _ => simpa using last same
  | [x, y], _ =>
    have other : x ≠ '\\' := by
      rintro rfl
      simp only [List.cons_append, List.nil_append,
        literalBody_doubled mark (keepsBackslash_brace y text), List.cons.injEq] at same
      obtain ⟨-, rfl, behindBoth⟩ := same
      rw [literalBody_doubled mark rfl] at behindBoth
      cases behindBoth
    obtain ⟨plain, here⟩ := plain_of_spelled mark other same
    simpa [plain] using last here

theorem closes_of_readsBack (mark : IsQuote quote) {digits text after : List Char} {pos : Nat}
    (spelled : SurrogateDigits digits)
    (kept : keepsBackslash ('u' :: '\x7b' :: (digits ++ text)) = true)
    (reads : ReadsBack quote pos after ('\\' :: 'u' :: '\x7b' :: (digits ++ text))) :
    Closes quote text := by
  have opening : ∀ x ∈ 'u' :: '\x7b' :: digits, IsPlain quote x := by
    obtain ⟨letter, opener, _⟩ := isPlain_marks mark
    simp only [List.forall_mem_cons]
    exact ⟨letter, opener, all_plain_of_digits mark spelled⟩
  have written : literalBody quote ('\\' :: 'u' :: '\x7b' :: (digits ++ text)) =
      '\\' :: 'u' :: '\x7b' :: (digits ++ literalBody quote text) := by
    rw [literalBody_kept mark kept]
    exact congrArg _ (literalBody_append opening text)
  rw [ReadsBack, written] at reads
  simp only [List.cons_append, List.append_assoc] at reads
  obtain ⟨front, back, ok, fitting, value⟩ :=
    Token.exists_value_of_stringBody mark.ne_backslash reads
  rcases spelled.exists_gap _ fitting ok with
    ⟨x, other, rfl⟩ | ⟨gap, rest, split, short, inside, ends, rfl⟩
  · exact absurd (List.cons.inj value).1.symm other
  · obtain rfl : text = gap ++ '\x7d' :: back := by simpa using value
    rw [split, endsDigits_brace_iff] at ends
    have plain := all_plain_of_spelled mark short split
    exact closes_iff.mpr ⟨gap, back, rfl, short, inside, plain, ends⟩

end Unclosed

/-- A text is read back from its literal exactly if it is sealed. -/
theorem readsBack_iff_sealed (mark : IsQuote quote) (text after : List Char) (pos : Nat) :
    ReadsBack quote pos after text ↔ Sealed quote text := by
  -- on the length, since a kept escape is passed over as a whole
  induction size : text.length using Nat.strongRecOn generalizing text pos with
  | ind size ih =>
    subst size
    cases text with
    | nil =>
      have closed : ReadsBack quote pos after [] := by simp [ReadsBack, literalBody, stringBody]
      have none : Sealed quote [] := by simp [Sealed, opened?]
      exact ⟨fun _ => none, fun _ => closed⟩
    | cons c rest =>
      by_cases kept : c = '\\' ∧ keepsBackslash rest = true
      · obtain ⟨rfl, kept⟩ := kept
        rcases kept_cases mark kept with ⟨used, text, rfl, plain, read, closed⟩ |
          ⟨digits, text, rfl, spelled, opening, unclosed⟩
        · obtain ⟨later, step⟩ := readsBack_kept_iff mark plain kept read pos after
          have shorter : text.length < ('\\' :: (used ++ text)).length := by
            rw [List.length_cons, List.length_append]
            omega
          rw [step, ih text.length shorter text later rfl, sealed_cons,
            sealed_append fun x member => (plain x member).ne_backslash]
          exact (and_iff_right closed).symm
        · constructor
          · intro reads
            exact absurd (closes_of_readsBack mark spelled kept reads) unclosed
          · intro closed
            exact absurd ((sealed_cons.mp closed).1 text opening) unclosed
      · have lone : c = '\\' → keepsBackslash rest = false := by simpa using kept
        obtain ⟨later, step⟩ := readsBack_cons_iff mark lone pos after
        rw [step, ih rest.length (Nat.lt_succ_self _) rest later rfl, sealed_cons,
          opened_eq_none lone]
        simp

end Reading

end GrammarEmbed.Text
