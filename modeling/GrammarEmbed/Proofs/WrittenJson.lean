import GrammarEmbed.Json.Reader
import GrammarEmbed.Json.Writer

/-!
The reader takes back what the writer has written. Every lemma is about a written text with more
behind it, which the reader leaves; the line and column it has come to are of no interest.
-/

namespace GrammarEmbed.Json

/-- Values of at most `depth` levels of nesting, with no numbers but integers of 64 bits. -/
inductive Value.Fits : Nat → Value → Prop where
  | null {depth : Nat} : Fits depth .null
  | bool {depth : Nat} (b : Bool) : Fits depth (.bool b)
  | int {depth : Nat} {n : Int} (lower : -0x8000000000000000 ≤ n)
      (upper : n < 0x10000000000000000) : Fits depth (.num (.int n))
  | str {depth : Nat} (s : String) : Fits depth (.str s)
  | arr {depth : Nat} {items : List Value} (each : ∀ item ∈ items, Fits depth item) :
      Fits (depth + 1) (.arr items)
  | obj {depth : Nat} {fields : List (String × Value)}
      (each : ∀ field ∈ fields, Fits depth field.2) : Fits (depth + 1) (.obj fields)

theorem bind_eq_ok_iff {ε α β : Type} {first : Except ε α} {next : α → Except ε β} {b : β} :
    (first >>= next) = .ok b ↔ ∃ a, first = .ok a ∧ next a = .ok b := by
  cases first <;> simp [bind, Except.bind]

namespace Cursor

open Text (hexValue?)

/-- A reader has succeeded and stands before `rest`. -/
def Reads {α : Type} (result : Except Error (α × Cursor)) (found : α) (rest : List Char) : Prop :=
  ∃ place, result = .ok (found, ⟨rest, place⟩)

theorem Reads.bind {α β : Type} {result : Except Error (α × Cursor)}
    {next : α × Cursor → Except Error (β × Cursor)} {a : α} {b : β} {between rest : List Char}
    (first : Reads result a between) (second : ∀ place, Reads (next (a, ⟨between, place⟩)) b rest) :
    Reads (result >>= next) b rest := by
  obtain ⟨place, rfl⟩ := first
  exact second place

theorem skipBlanks_of {c : Cursor} {x : Char} {rest : List Char} (next : c.rest = x :: rest)
    (dark : isJsonBlank x = false) : c.skipBlanks = c := by
  obtain ⟨_, place⟩ := c
  subst next
  simp [skipBlanks, skipWhile, dark]

theorem keyword_reads {α : Type} (found : α) (word rest : List Char) (place : Position) :
    Reads (do .ok (found, ← keyword ⟨word ++ rest, place⟩ word)) found rest := by
  induction word generalizing place with
  | nil => exact ⟨place, rfl⟩
  | cons x word ih =>
    simp only [List.cons_append, keyword, beq_self_eq_true, if_true]
    exact ih _

section Strings

theorem hexValue_digitChar : ∀ d < 16, hexValue? (Nat.digitChar d) = some d := by decide

theorem utf8Size_digitChar : ∀ d < 16, (Nat.digitChar d).utf8Size = 1 := by decide

theorem hexEscape_hexQuad {n : Nat} (small : n < 0x10000) (rest : List Char) (place : Position) :
    Reads (hexEscape ⟨hexQuad n ++ rest, place⟩) n rest := by
  have digits : n / 4096 % 16 * 4096 + n / 256 % 16 * 256 + n / 16 % 16 * 16 + n % 16 = n := by
    omega
  have low (m : Nat) : m % 16 < 16 := Nat.mod_lt m (by decide)
  have read : hexEscape ⟨hexQuad n ++ rest, place⟩ =
      .ok (n, (step ⟨hexQuad n ++ rest, place⟩).step.step.step) := by
    simp [hexEscape, hexQuad, utf8Size_digitChar _ (low _), hexValue_digitChar _ (low _), digits]
  exact ⟨_, read⟩

theorem unicodeEscape_hexQuad {x : Char} (low : x.toNat < 0xD800) (rest : List Char)
    (place : Position) : Reads (unicodeEscape ⟨hexQuad x.toNat ++ rest, place⟩) x rest := by
  obtain ⟨later, read⟩ := hexEscape_hexQuad (n := x.toNat) (by omega) rest place
  have notTrailing : ¬(0xDC00 ≤ x.toNat ∧ x.toNat ≤ 0xDFFF) := by omega
  refine ⟨later, ?_⟩
  simp [unicodeEscape, read, bind, Except.bind, notTrailing, low]

theorem stringBody_cons (fuel : Nat) {x : Char} (notQuote : x ≠ '"') (notBackslash : x ≠ '\\')
    (visible : ¬x.toNat < 0x20) (rest : List Char) (place : Position) (done : List Char) :
    stringBody (fuel + 1) ⟨x :: rest, place⟩ done =
      stringBody fuel (step ⟨x :: rest, place⟩) (x :: done) := by
  rw [stringBody]
  split
  case h_1 same => cases same
  case h_2 same => exact absurd (List.cons.inj same).1 notQuote
  case h_3 same => exact absurd (List.cons.inj same).1 notBackslash
  case h_4 same =>
    cases same
    exact if_neg visible

/-- Every character is read from its own spelling. -/
theorem stringBody_escapeChar (fuel : Nat) (x : Char) (rest : List Char) (place : Position)
    (done : List Char) :
    ∃ later, stringBody (fuel + 1) ⟨escapeChar x ++ rest, place⟩ done =
      stringBody fuel ⟨rest, later⟩ (x :: done) := by
  fun_cases escapeChar x
  case case8 control =>
    obtain ⟨later, read⟩ := unicodeEscape_hexQuad (x := x) (by omega) rest
      (step ⟨'\\' :: 'u' :: hexQuad x.toNat ++ rest, place⟩).step.place
    refine ⟨later, ?_⟩
    exact congrArg (· >>= fun found => stringBody fuel found.2 (found.1 :: done)) read
  case case9 notQuote notBackslash _ _ _ _ _ visible =>
    simp only [beq_iff_eq] at notQuote notBackslash
    exact ⟨_, stringBody_cons fuel notQuote notBackslash visible rest place done⟩
  all_goals
    simp only [beq_iff_eq] at *
    subst x
    exact ⟨_, rfl⟩

theorem stringBody_write (text rest : List Char) (fuel : Nat) (enough : text.length < fuel)
    (place : Position) (done : List Char) :
    Reads (stringBody fuel ⟨text.flatMap escapeChar ++ '"' :: rest, place⟩ done)
      (text.reverse ++ done) rest := by
  induction text generalizing fuel place done with
  | nil =>
    obtain ⟨fuel, rfl⟩ := Nat.exists_eq_add_of_lt enough
    exact ⟨_, rfl⟩
  | cons x text ih =>
    cases fuel with
    | zero => cases enough
    | succ fuel =>
      obtain ⟨later, read⟩ :=
        stringBody_escapeChar fuel x (text.flatMap escapeChar ++ '"' :: rest) place done
      rw [List.flatMap_cons, List.append_assoc, read, List.reverse_cons, List.append_assoc]
      exact ih fuel (Nat.lt_of_succ_lt_succ enough) later (x :: done)

theorem length_le_flatMap (text : List Char) : text.length ≤ (text.flatMap escapeChar).length := by
  induction text with
  | nil => exact Nat.le_refl 0
  | cons x text ih =>
    have spelled : 0 < (escapeChar x).length := by
      fun_cases escapeChar x <;> exact Nat.zero_lt_succ _
    simp only [List.flatMap_cons, List.length_append, List.length_cons]
    omega

theorem string_write (s : String) (rest : List Char) (place : Position) :
    Reads (string ⟨s.toList.flatMap escapeChar ++ '"' :: rest, place⟩) s rest := by
  have enough : s.toList.length <
      (s.toList.flatMap escapeChar ++ '"' :: rest).length + 1 := by
    have spelled := length_le_flatMap s.toList
    simp only [List.length_append]
    omega
  obtain ⟨later, read⟩ := stringBody_write s.toList rest _ enough place []
  refine ⟨later, ?_⟩
  simp only [string, read]
  simp [bind, Except.bind]

theorem writeString_append (s : String) (rest : List Char) :
    writeString s ++ rest = '"' :: (s.toList.flatMap escapeChar ++ '"' :: rest) := by
  simp [writeString]

end Strings

/-- What may stand behind a written value: nothing, or a mark that ends it. -/
def Ended (rest : List Char) : Prop :=
  ∀ x ∈ rest.head?, x = ',' ∨ x = ']' ∨ x = '\x7d'

theorem Ended.head_not_digit {x : Char} {rest : List Char} (ended : Ended (x :: rest)) :
    x.isDigit = false := by
  rcases ended x rfl with rfl | rfl | rfl <;> rfl

section Numbers

/-- Decimal digits start with a zero for zero alone. -/
theorem exists_toDigits_eq_cons (n : Nat) :
    ∃ d ds, Nat.toDigits 10 n = d :: ds ∧ d.isDigit = true ∧ (d = '0' → n = 0) := by
  induction n using Nat.strongRecOn with
  | ind n ih =>
    by_cases small : n < 10
    · have zero : ∀ d < 10, Nat.digitChar d = '0' → d = 0 := by decide
      have digit : (Nat.digitChar n).isDigit = true := by simpa [Nat.isDigit_digitChar] using small
      exact ⟨Nat.digitChar n, [], Nat.toDigits_of_lt_base small, digit, zero n small⟩
    · obtain ⟨d, ds, split, digit, zero⟩ := ih (n / 10) (by omega)
      refine ⟨d, ds ++ [Nat.digitChar (n % 10)], ?_, digit, ?_⟩
      · rw [Nat.toDigits_of_base_le (by decide) (by omega), split, List.cons_append]
      · intro same
        have := zero same
        omega

theorem le_ofDigitChars (digits : List Char) (start : Nat) :
    start ≤ Nat.ofDigitChars 10 digits start := by
  induction digits generalizing start with
  | nil => exact Nat.le_refl start
  | cons d digits ih =>
    rw [Nat.ofDigitChars_cons]
    exact Nat.le_trans (by omega) (ih _)

theorem takeDigits_append {digits : List Char} (all : ∀ d ∈ digits, d.isDigit = true)
    {rest : List Char} (ended : Ended rest) (place : Position) (start count : Nat)
    (small : Nat.ofDigitChars 10 digits start ≤ maxSignificand) :
    ∃ later, takeDigits (digits ++ rest) place start count =
      (Nat.ofDigitChars 10 digits start, count + digits.length, ⟨rest, later⟩) := by
  induction digits generalizing place start count with
  | nil =>
    cases rest with
    | nil => exact ⟨place, rfl⟩
    | cons x rest => exact ⟨place, by simp [takeDigits, ended.head_not_digit]⟩
  | cons d digits ih =>
    rw [Nat.ofDigitChars_cons, Nat.mul_comm] at small ⊢
    have next : ¬maxSignificand < start * 10 + (d.toNat - 48) :=
      Nat.not_lt.mpr (Nat.le_trans (le_ofDigitChars digits _) small)
    obtain ⟨later, taken⟩ := ih (fun x member => all x (List.mem_cons_of_mem d member))
      ⟨place.line, place.column + 1⟩ _ (count + 1) small
    refine ⟨later, ?_⟩
    simp only [List.cons_append, takeDigits, all d List.mem_cons_self, next, if_true, if_false]
    rw [List.length_cons, Nat.add_comm digits.length, ← Nat.add_assoc]
    exact taken

theorem number_toDigits (negative : Bool) {n : Nat} (small : n ≤ maxSignificand)
    {rest : List Char} (ended : Ended rest) (place : Position) :
    ∃ later, number ⟨Nat.toDigits 10 n ++ rest, place⟩ negative =
      numberTail ⟨rest, later⟩ negative n := by
  obtain ⟨d, ds, split, digit, zero⟩ := exists_toDigits_eq_cons n
  by_cases leading : d = '0'
  · obtain rfl := zero leading
    refine ⟨(step ⟨'0' :: rest, place⟩).place, ?_⟩
    cases rest with
    | nil => rfl
    | cons x rest => exact if_neg (by simp [ended.head_not_digit])
  · have all : ∀ d ∈ Nat.toDigits 10 n, d.isDigit = true := fun d =>
      Nat.isDigit_of_mem_toDigits (by decide) (by decide)
    obtain ⟨later, taken⟩ := takeDigits_append all ended place 0 0
      (by rwa [Nat.ofDigitChars_ten_toDigits])
    rw [Nat.ofDigitChars_ten_toDigits] at taken
    refine ⟨later, ?_⟩
    rw [split] at taken ⊢
    simp only [List.cons_append] at taken ⊢
    simp only [number, beq_iff_eq, leading, if_false, digit, if_true, taken]
    cases rest with
    | nil => rfl
    | cons x rest => exact if_neg (by simp [ended.head_not_digit])

theorem numberTail_ended {rest : List Char} (ended : Ended rest) (place : Position)
    (negative : Bool) (n : Nat) :
    numberTail ⟨rest, place⟩ negative n =
      if !negative then .ok (.int n, ⟨rest, place⟩)
      else if n == 0 || 0x8000000000000000 < n then float ⟨rest, place⟩ true n 0
      else .ok (.int (-(n : Int)), ⟨rest, place⟩) := by
  unfold numberTail
  split
  case h_4 => rfl
  all_goals
    next found =>
      rw [show rest = _ from found] at ended
      simpa using ended _ rfl

theorem isJsonBlank_digit {d : Char} (digit : d.isDigit = true) : isJsonBlank d = false := by
  unfold isJsonBlank
  cases blank : d == ' ' || d == '\n' || d == '\t' || d == '\r'
  · rfl
  · simp only [Bool.or_eq_true, beq_iff_eq] at blank
    rcases blank with ((rfl | rfl) | rfl) | rfl <;> cases digit

theorem value_digit (depth : Nat) {d : Char} (digit : d.isDigit = true) (rest : List Char)
    (place : Position) :
    value depth ⟨d :: rest, place⟩ =
      (do
        let (n, c) ← number ⟨d :: rest, place⟩ false
        .ok (.num n, c)) := by
  unfold value
  rw [skipBlanks_of rfl (isJsonBlank_digit digit)]
  simp only
  split
  case h_9 same =>
    cases same
    exact if_pos digit
  all_goals
    next same =>
      cases same
      try cases digit

theorem value_writeInt {n : Int} (lower : -0x8000000000000000 ≤ n)
    (upper : n < 0x10000000000000000) {rest : List Char} (ended : Ended rest) (place : Position)
    (depth : Nat) :
    Reads (value depth ⟨writeInt n ++ rest, place⟩) (.num (.int n)) rest := by
  have small : n.natAbs ≤ maxSignificand := by
    unfold maxSignificand
    omega
  unfold writeInt
  split
  case isTrue negative =>
    obtain ⟨later, read⟩ := number_toDigits true small ended
      (step ⟨'-' :: (Nat.toDigits 10 n.natAbs ++ rest), place⟩).place
    have int : numberTail ⟨rest, later⟩ true n.natAbs = .ok (.int n, ⟨rest, later⟩) := by
      have fits : ¬(n = 0 ∨ 0x8000000000000000 < n.natAbs) := by omega
      have sign : -(n.natAbs : Int) = n := by omega
      rw [numberTail_ended ended, sign]
      simp [fits]
    unfold value
    exact Reads.bind ⟨later, read.trans int⟩ fun place => ⟨place, rfl⟩
  case isFalse natural =>
    obtain ⟨later, read⟩ := number_toDigits false small ended place
    have int : numberTail ⟨rest, later⟩ false n.natAbs = .ok (.int n, ⟨rest, later⟩) := by
      have sign : (n.natAbs : Int) = n := by omega
      rw [numberTail_ended ended, sign]
      rfl
    obtain ⟨d, ds, split, digit, -⟩ := exists_toDigits_eq_cons n.natAbs
    rw [split, List.cons_append] at read ⊢
    rw [value_digit depth digit]
    exact Reads.bind ⟨later, read.trans int⟩ fun place => ⟨place, rfl⟩

theorem exists_writeInt_eq_cons (n : Int) :
    ∃ x more, writeInt n = x :: more ∧ isJsonBlank x = false ∧ x ≠ ']' := by
  obtain ⟨d, ds, split, digit, -⟩ := exists_toDigits_eq_cons n.natAbs
  unfold writeInt
  split
  · exact ⟨'-', _, rfl, rfl, by decide⟩
  · refine ⟨d, ds, split, isJsonBlank_digit digit, ?_⟩
    rintro rfl
    cases digit

end Numbers

/-- A value that `read` takes back: it starts neither with a blank nor with the end of a list, and
is read up to where it ends. -/
structure TakesBack (read : Cursor → Except Error (Value × Cursor)) (v : Value) : Prop where
  starts : ∃ x more, v.write = x :: more ∧ isJsonBlank x = false ∧ x ≠ ']'
  reads : ∀ rest place, Ended rest → Reads (read ⟨v.write ++ rest, place⟩) v rest

section Lists

variable {read : Cursor → Except Error (Value × Cursor)}

theorem ended_writeItems (items : List Value) (rest : List Char) :
    Ended (Value.writeItems items ++ rest) := by
  cases items with
  | nil => simp [Ended, Value.writeItems]
  | cons item items => simp [Ended, Value.writeItems]

theorem length_lt_writeItems (items : List Value) :
    items.length < (Value.writeItems items).length := by
  induction items with
  | nil => exact Nat.zero_lt_one
  | cons item items ih =>
    simp only [Value.writeItems, List.length_cons, List.length_append]
    omega

/-- The next item follows, the first of the list or one behind a comma. -/
theorem nextItem_write {item : Value} (takes : TakesBack read item) (first : Bool)
    (rest : List Char) (place : Position) :
    Reads (nextItem ⟨(if first then [] else [',']) ++ (item.write ++ rest), place⟩ first) true
      (item.write ++ rest) := by
  obtain ⟨x, more, split, dark, notEnd⟩ := takes.starts
  rw [split]
  cases first with
  | true =>
    refine ⟨place, ?_⟩
    rw [nextItem, skipBlanks_of (x := x) rfl dark]
    split
    case h_1 same => cases same
    case h_2 same => exact absurd (List.cons.inj same).1 notEnd
    case h_3 => rfl
  | false =>
    have comma : skipBlanks ⟨',' :: x :: (more ++ rest), place⟩ =
        ⟨',' :: x :: (more ++ rest), place⟩ := skipBlanks_of rfl rfl
    refine ⟨(step ⟨',' :: x :: (more ++ rest), place⟩).place, ?_⟩
    change nextItem ⟨',' :: x :: (more ++ rest), place⟩ false = _
    rw [nextItem, comma]
    split
    case h_1 same => cases same
    case h_2 same => cases (List.cons.inj same).1
    case h_3 same =>
      cases same
      rw [if_neg Bool.false_ne_true, if_pos (beq_self_eq_true _), skipBlanks_of (x := x) rfl dark]
      dsimp only
      split
      case h_1 same => cases same
      case h_2 same => exact absurd (List.cons.inj same).1 notEnd
      case h_3 => rfl

theorem items_cons {item : Value} (takes : TakesBack read item) (items : List Value)
    (rest : List Char) (fuel : Nat) (first : Bool) (place : Position) (done : List Value) :
    ∃ later, Cursor.items read (fuel + 1) first
        ⟨(if first then [] else [',']) ++ (item.write ++ (Value.writeItems items ++ rest)), place⟩
        done =
      Cursor.items read fuel false ⟨Value.writeItems items ++ rest, later⟩ (item :: done) := by
  obtain ⟨between, next⟩ := nextItem_write takes first (Value.writeItems items ++ rest) place
  obtain ⟨later, took⟩ := takes.reads _ between (ended_writeItems items rest)
  refine ⟨later, ?_⟩
  simp only [Cursor.items, next, took, bind, Except.bind, if_true]

theorem items_write {items : List Value} (takes : ∀ item ∈ items, TakesBack read item)
    (rest : List Char) (fuel : Nat) (enough : items.length < fuel) (place : Position)
    (done : List Value) :
    Reads (Cursor.items read fuel false ⟨Value.writeItems items ++ rest, place⟩ done)
      (done.reverse ++ items) (']' :: rest) := by
  induction items generalizing fuel place done with
  | nil =>
    obtain ⟨fuel, rfl⟩ := Nat.exists_eq_add_of_lt enough
    rw [List.append_nil]
    exact ⟨place, rfl⟩
  | cons item items ih =>
    cases fuel with
    | zero => cases enough
    | succ fuel =>
      obtain ⟨later, read⟩ :=
        items_cons (takes item List.mem_cons_self) items rest fuel false place done
      have tail := ih (fun other member => takes other (List.mem_cons_of_mem item member)) fuel
        (Nat.lt_of_succ_lt_succ enough) later (item :: done)
      rw [Value.writeItems, List.cons_append, List.append_assoc]
      rw [List.reverse_cons, List.append_assoc] at tail
      exact read ▸ tail

/-- The items of a list are read from the text behind its opening bracket. -/
theorem items_arr {items : List Value} {text : List Char}
    (written : (Value.arr items).write = '[' :: text)
    (takes : ∀ item ∈ items, TakesBack read item) (rest : List Char) (place : Position) :
    Reads (Cursor.items read (('[' :: text ++ rest).length + 1) true ⟨text ++ rest, place⟩ [])
      items (']' :: rest) := by
  cases items with
  | nil =>
    cases written
    exact ⟨place, rfl⟩
  | cons item items =>
    cases written
    have enough : items.length <
        ('[' :: (item.write ++ Value.writeItems items) ++ rest).length := by
      have := length_lt_writeItems items
      simp only [List.length_append, List.length_cons]
      omega
    obtain ⟨later, read⟩ := items_cons (takes item List.mem_cons_self) items rest _ true place []
    have tail := items_write (fun other member => takes other (List.mem_cons_of_mem item member))
      rest _ enough later [item]
    rw [List.append_assoc]
    exact read ▸ tail

end Lists

section Objects

variable {read : Cursor → Except Error (Value × Cursor)}

theorem ended_writeFields (fields : List (String × Value)) (rest : List Char) :
    Ended (Value.writeFields fields ++ rest) := by
  cases fields with
  | nil => simp [Ended, Value.writeFields]
  | cons field fields => simp [Ended, Value.writeFields]

theorem length_lt_writeFields (fields : List (String × Value)) :
    fields.length < (Value.writeFields fields).length := by
  induction fields with
  | nil => exact Nat.zero_lt_one
  | cons field fields ih =>
    simp only [Value.writeFields, List.length_cons, List.length_append]
    omega

/-- The next key follows, the first of the object or one behind a comma. -/
theorem nextKey_write (key : String) (first : Bool) (rest : List Char) (place : Position) :
    Reads (nextKey ⟨(if first then [] else [',']) ++ (writeString key ++ rest), place⟩ first)
      (some key) rest := by
  rw [writeString_append]
  cases first with
  | true => exact (string_write key rest _).bind fun place => ⟨place, rfl⟩
  | false => exact (string_write key rest _).bind fun place => ⟨place, rfl⟩

theorem fields_cons {value : Value} (takes : TakesBack read value) (key : String)
    (fields : List (String × Value)) (rest : List Char) (fuel : Nat) (first : Bool)
    (place : Position) (done : List (String × Value)) :
    ∃ later, Cursor.fields read (fuel + 1) first
        ⟨(if first then [] else [',']) ++
          (writeString key ++ ':' :: (value.write ++ (Value.writeFields fields ++ rest))), place⟩
        done =
      Cursor.fields read fuel false ⟨Value.writeFields fields ++ rest, later⟩
        ((key, value) :: done) := by
  generalize behind : value.write ++ (Value.writeFields fields ++ rest) = text
  obtain ⟨between, next⟩ := nextKey_write key first (':' :: text) place
  obtain ⟨start, colon⟩ : ∃ start, Cursor.colon ⟨':' :: text, between⟩ = .ok ⟨text, start⟩ :=
    ⟨_, rfl⟩
  obtain ⟨later, took⟩ := takes.reads _ start (ended_writeFields fields rest)
  refine ⟨later, ?_⟩
  subst behind
  simp only [Cursor.fields, next, colon, took, bind, Except.bind]

theorem fields_write {fields : List (String × Value)}
    (takes : ∀ field ∈ fields, TakesBack read field.2)
    (rest : List Char) (fuel : Nat) (enough : fields.length < fuel) (place : Position)
    (done : List (String × Value)) :
    Reads (Cursor.fields read fuel false ⟨Value.writeFields fields ++ rest, place⟩ done)
      (done.reverse ++ fields) ('\x7d' :: rest) := by
  induction fields generalizing fuel place done with
  | nil =>
    obtain ⟨fuel, rfl⟩ := Nat.exists_eq_add_of_lt enough
    rw [List.append_nil]
    exact ⟨place, rfl⟩
  | cons field fields ih =>
    cases fuel with
    | zero => cases enough
    | succ fuel =>
      obtain ⟨later, read⟩ :=
        fields_cons (takes field List.mem_cons_self) field.1 fields rest fuel false place done
      have tail := ih (fun other member => takes other (List.mem_cons_of_mem field member)) fuel
        (Nat.lt_of_succ_lt_succ enough) later (field :: done)
      rw [List.reverse_cons, List.append_assoc] at tail
      simp only [Value.writeFields, List.cons_append, List.append_assoc]
      exact read ▸ tail

/-- The fields of an object are read from the text behind its opening brace. -/
theorem fields_obj {fields : List (String × Value)} {text : List Char}
    (written : (Value.obj fields).write = '\x7b' :: text)
    (takes : ∀ field ∈ fields, TakesBack read field.2) (rest : List Char) (place : Position) :
    Reads (Cursor.fields read (('\x7b' :: text ++ rest).length + 1) true ⟨text ++ rest, place⟩ [])
      fields ('\x7d' :: rest) := by
  cases fields with
  | nil =>
    cases written
    exact ⟨place, rfl⟩
  | cons field fields =>
    cases written
    have enough : fields.length < ('\x7b' :: (writeString field.1 ++
        ':' :: (field.2.write ++ Value.writeFields fields)) ++ rest).length := by
      have := length_lt_writeFields fields
      simp only [List.length_append, List.length_cons]
      omega
    obtain ⟨later, read⟩ :=
      fields_cons (takes field List.mem_cons_self) field.1 fields rest _ true place []
    have tail := fields_write (fun other member => takes other (List.mem_cons_of_mem field member))
      rest _ enough later [field]
    simp only [List.append_assoc, List.cons_append] at tail ⊢
    exact read ▸ tail

end Objects

/-- Values within the limits are taken back by the reader of values. -/
theorem takesBack_value {depth : Nat} {v : Value} (fits : v.Fits depth) :
    TakesBack (value depth) v := by
  induction fits with
  | null =>
    refine ⟨⟨'n', _, rfl, rfl, by decide⟩, ?_⟩
    intro rest place _
    unfold value
    exact keyword_reads Value.null ['u', 'l', 'l'] rest _
  | bool b =>
    cases b with
    | false =>
      refine ⟨⟨'f', _, rfl, rfl, by decide⟩, ?_⟩
      intro rest place _
      unfold value
      exact keyword_reads (Value.bool false) ['a', 'l', 's', 'e'] rest _
    | true =>
      refine ⟨⟨'t', _, rfl, rfl, by decide⟩, ?_⟩
      intro rest place _
      unfold value
      exact keyword_reads (Value.bool true) ['r', 'u', 'e'] rest _
  | @int depth n lower upper =>
    refine ⟨exists_writeInt_eq_cons n, ?_⟩
    intro rest place ended
    exact value_writeInt lower upper ended place depth
  | str s =>
    refine ⟨⟨'"', _, rfl, rfl, by decide⟩, ?_⟩
    intro rest place _
    rw [Value.write, writeString_append]
    unfold value
    exact (string_write s rest _).bind fun place => ⟨place, rfl⟩
  | @arr depth items each ih =>
    obtain ⟨text, written⟩ : ∃ text, (Value.arr items).write = '[' :: text := by
      cases items <;> exact ⟨_, rfl⟩
    refine ⟨⟨'[', text, written, rfl, by decide⟩, ?_⟩
    intro rest place _
    rw [written]
    unfold value
    exact (items_arr written ih rest _).bind fun place => ⟨_, rfl⟩
  | @obj depth fields each ih =>
    obtain ⟨text, written⟩ : ∃ text, (Value.obj fields).write = '\x7b' :: text := by
      cases fields <;> exact ⟨_, rfl⟩
    refine ⟨⟨'\x7b', text, written, rfl, by decide⟩, ?_⟩
    intro rest place _
    rw [written]
    unfold value
    exact (fields_obj written ih rest _).bind fun place => ⟨_, rfl⟩

end Cursor

/-- Reading inverts writing. -/
theorem parse_compact {v : Value} (fits : v.Fits maxDepth) : parse v.compact = .ok v := by
  obtain ⟨later, read⟩ := (Cursor.takesBack_value fits).reads [] ⟨1, 0⟩ (by simp [Cursor.Ended])
  rw [List.append_nil] at read
  simp only [parse, Value.compact, Cursor.ofString, String.toList_ofList, read]
  rfl

end GrammarEmbed.Json
