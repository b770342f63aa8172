import GrammarEmbed.Parse.Pattern
import GrammarEmbed.Proofs.StrayCharacters
import GrammarEmbed.Proofs.TokenStart

namespace GrammarEmbed

namespace Text

def EndsName (after : List Char) : Prop :=
  ∀ c ∈ after.head?, isNamePart c = false ∧ c ≠ '\\'

/-- The blanks, by their codes. -/
def blankRanges : List (Nat × Nat) :=
  [(0x9, 0xd), (0x20, 0x20), (0x85, 0x85), (0xa0, 0xa0), (0x1680, 0x1680), (0x2000, 0x200a),
   (0x2028, 0x2029), (0x202f, 0x202f), (0x205f, 0x205f), (0x3000, 0x3000)]

theorem difference_blank : difference blankRanges alphabeticRanges = blankRanges := by
  decide +kernel

variable {c : Char}

theorem inRanges_blank (blank : isBlank c = true) : inRanges blankRanges c.toNat = true := by
  have none : ¬inRanges [] c.toNat = true := nofun
  simp only [isBlank, Bool.or_eq_true, Bool.and_eq_true, decide_eq_true_eq, beq_iff_eq] at blank
  simp only [blankRanges, inRanges_cons, none]
  omega

theorem isBlank_of_isAlphabetic (letter : isAlphabetic c = true) : isBlank c = false := by
  cases blank : isBlank c with
  | false => rfl
  | true =>
    simp only [isAlphabetic, Bool.or_eq_true, Bool.and_eq_true] at letter
    rcases letter with ascii | ⟨-, wide⟩
    · have code := toNat_of_isAlphanum (c := c) (by simp [Char.isAlphanum, ascii])
      simp only [isBlank, Bool.or_eq_true, Bool.and_eq_true, decide_eq_true_eq, beq_iff_eq] at blank
      omega
    · have kept := inRanges_difference (by decide : increasing 0 blankRanges = true)
        increasing_tables.1 c.toNat
      rw [difference_blank] at kept
      exact absurd wide (kept.mp (inRanges_blank blank)).2

/-- What stands at the front of a name that a configuration may give. -/
theorem exists_start {name : String} (plain : isPlainName name = true) :
    ∃ first rest, name.toList = first :: rest ∧
      (isAlphabetic first = true ∨ first = '_' ∨ first = '$') ∧
      ∀ c ∈ rest, isAlphabetic c = true ∨ isNumeric c = true ∨ c = '_' ∨ c = '$' := by
  unfold isPlainName at plain
  cases characters : name.toList with
  | nil => simp [characters] at plain
  | cons first rest =>
    refine ⟨first, rest, rfl, ?_⟩
    simpa [characters, or_assoc] using plain

theorem ne_backslash_of_plain {name : String} (plain : isPlainName name = true) :
    ∀ c ∈ name.toList, c ≠ '\\' := by
  obtain ⟨first, rest, characters, start, parts⟩ := exists_start plain
  rw [characters]
  rintro c member rfl
  rcases List.mem_cons.mp member with rfl | later
  · exact absurd start (by decide)
  · exact absurd (parts _ later) (by decide)

/-- A name is an identifier name exactly if a word may start with it and reaches up to its end. -/
theorem isIdentifierName_iff_word {name : String} {first : Char} {rest after : List Char}
    (characters : name.toList = first :: rest) (ends : EndsName after) :
    isIdentifierName name = true ↔
      isNameStart first = true ∧ (name.toList ++ after).takeWhile isNamePart = name.toList := by
  have stops : after.takeWhile isNamePart = [] := by
    cases after with
    | nil => rfl
    | cons c more => simp [(ends c rfl).1]
  simp only [isIdentifierName, characters, Bool.and_eq_true, List.all_eq_true]
  apply and_congr_right
  intro start
  constructor
  · intro parts
    have all : ∀ c ∈ first :: rest, isNamePart c = true :=
      List.forall_mem_cons.mpr ⟨isNamePart_of_isNameStart start, parts⟩
    rw [List.takeWhile_append_of_pos all, stops, List.append_nil]
  · intro whole c member
    have taken : c ∈ (first :: rest ++ after).takeWhile isNamePart := by
      rw [whole]
      exact List.mem_cons_of_mem first member
    exact List.all_eq_true.mp List.all_takeWhile c taken

/-- Behind a name, and inside of it, no word goes on with a backslash. -/
theorem head_dropWhile_ne {name : String} (plain : isPlainName name = true) {after : List Char}
    (ends : EndsName after) :
    ∀ c ∈ ((name.toList ++ after).dropWhile isNamePart).head?, c ≠ '\\' := by
  have stays : after.dropWhile isNamePart = after := by
    cases after with
    | nil => rfl
    | cons c more => simp [(ends c rfl).1]
  intro c member
  rw [List.dropWhile_append, stays] at member
  split at member
  · exact (ends c member).2
  · apply ne_backslash_of_plain plain c
    apply (List.dropWhile_sublist isNamePart).subset
    cases inside : name.toList.dropWhile isNamePart with
    | nil => simp_all
    | cons x more =>
      rw [inside] at member
      cases member
      exact List.mem_cons_self

end Text

namespace Token

open Text (isNamePart isNameStart)

/-- A token starts at every character that may stand first in a name. -/
theorem starts_of_letter {c : Char} (letter : Text.isAlphabetic c = true ∨ c = '_' ∨ c = '$') :
    Starts c := by
  rcases letter with letter | rfl | rfl
  · have noBlank := Text.isBlank_of_isAlphabetic letter
    refine ⟨?_, noBlank, ?_⟩
    · cases lineEnd : Text.isLineEnd c with
      | false => rfl
      | true =>
        simp only [Text.isLineEnd, Bool.or_eq_true, beq_iff_eq] at lineEnd
        rcases lineEnd with ((rfl | rfl) | rfl) | rfl <;> exact absurd noBlank (by decide)
    · intro other
      have noLetter : (['\ufeff', '/', '<', '-', '=', '>', '#', '\x00'].all fun mark =>
          !Text.isAlphabetic mark) = true := by decide +kernel
      simpa [letter] using List.all_eq_true.mp noLetter c other
  · exact ⟨rfl, rfl, by decide⟩
  · exact ⟨rfl, rfl, by decide⟩

/-- Up to a character that no name holds, a name is its characters. -/
theorem nameBody_span (text : List Char)
    (plain : ∀ c ∈ (text.dropWhile isNamePart).head?, c ≠ '\\') (pos : Nat) (isFirst : Bool) :
    nameBody 0 pos isFirst text = ⟨text.takeWhile isNamePart, text.takeWhile isNamePart,
      text.dropWhile isNamePart, false, [], none⟩ := by
  induction text generalizing pos isFirst with
  | nil => rfl
  | cons c rest ih =>
    by_cases part : isNamePart c = true
    · simp only [List.dropWhile_cons, part, if_true] at plain
      simp only [nameBody, part, if_true, ih plain, NameBody.push, List.takeWhile_cons,
        List.dropWhile_cons, List.singleton_append]
    · simp only [List.dropWhile_cons, part] at plain
      have noBackslash : c ≠ '\\' := plain c rfl
      simp [nameBody, part, noBackslash]

end Token

namespace Lexer

/-- From here the lexer takes `word`, and nothing behind it, for a word, without a notice. -/
def TakesWord (lexer : Lexer) (word : String) (after : List Char) : Prop :=
  ∃ later, lexer.next =
      (⟨.word word false, ⟨lexer.pos, lexer.pos + byteCount word.toList⟩, lexer.isFirst⟩, [],
        later) ∧ later.rest = after

/-- No mark of the language is outside ASCII. -/
theorem mark_of_wide {first : Char} (wide : 0x80 ≤ first.toNat) (rest : List Char) :
    mark? (first :: rest) = none := by
  have ascii : (marks.all fun mark => mark.toList.head?.any (·.toNat < 0x80)) = true := by
    decide +kernel
  have none : marks.find? (fun mark => mark.toList.isPrefixOf (first :: rest)) = none := by
    apply List.find?_eq_none.mpr
    intro mark member front
    have low := List.all_eq_true.mp ascii mark member
    cases spelled : mark.toList with
    | nil => simp [spelled] at low
    | cons c more =>
      simp only [spelled, List.isPrefixOf, Bool.and_eq_true, beq_iff_eq] at front
      simp only [spelled, List.head?_cons, Option.any_some, decide_eq_true_eq, front.1] at low
      omega
  rw [mark?, none]
  rfl

/-- A letter that starts no name is no token. -/
theorem token_of_letter {first : Char} (letter : Text.isAlphabetic first = true)
    (other : Text.isNameStart first = false) (pos : Nat) (afterLine : Bool) (rest : List Char) :
    token pos afterLine first rest =
      ⟨.bad ⟨pos, .unexpectedCharacter first⟩ pos, [first], rest, []⟩ := by
  have wide : 0x80 ≤ first.toNat := by
    simp only [Text.isAlphabetic, Bool.or_eq_true, Bool.and_eq_true, decide_eq_true_eq] at letter
    rcases letter with ascii | ⟨wide, -⟩
    · simp [Text.isNameStart, ascii] at other
    · exact wide
  have noDigit : first.isDigit = false := by
    cases digit : first.isDigit with
    | false => rfl
    | true =>
      have code := Text.toNat_of_isAlphanum (c := first) (by simp [Char.isAlphanum, digit])
      omega
  have others : first ≠ '\\' ∧ first ≠ '.' ∧ first ≠ '"' ∧ first ≠ '\'' ∧ first ≠ '|' := by
    refine ⟨?_, ?_, ?_, ?_, ?_⟩ <;> rintro rfl <;> exact absurd wide (by decide)
  simp [token, other, noDigit, others, List.isPrefixOf, Ne.symm others.2.2.2.2, mark_of_wide wide]

variable {lexer : Lexer} (running : lexer.broken = none)

include running

/-- Where a name starts, the lexer takes a word of all that a name may hold. -/
theorem next_of_name {first : Char} {rest : List Char} (starts : Token.Starts first)
    (front : lexer.rest = first :: rest) (start : Text.isNameStart first = true)
    (plain : ∀ c ∈ ((first :: rest).dropWhile Text.isNamePart).head?, c ≠ '\\') :
    let word := (first :: rest).takeWhile Text.isNamePart
    ∃ later, lexer.next =
        (⟨.word (String.ofList word) false, ⟨lexer.pos, lexer.pos + byteCount word⟩, lexer.isFirst⟩,
          [], later) ∧ later.rest = (first :: rest).dropWhile Text.isNamePart := by
  have noBackslash : first ≠ '\\' := by
    rintro rfl
    exact absurd start (by decide)
  have next := next_of_starts starts running front
  have read : token lexer.pos lexer.isFirst first rest =
      ⟨.word (String.ofList ((first :: rest).takeWhile Text.isNamePart)) false,
        (first :: rest).takeWhile Text.isNamePart, (first :: rest).dropWhile Text.isNamePart,
        []⟩ := by
    simp [token, start, Token.nameToken, Token.nameBody_span _ plain, noBackslash]
  rwa [read] at next

variable {name : String} (plain : Text.isPlainName name = true) {after : List Char}
  (ends : Text.EndsName after) (front : lexer.rest = name.toList ++ after)

include plain ends front

/-- At a name that a configuration may give, the lexer takes a word if one can start there, and
otherwise finds no token. -/
theorem next_of_plain :
    (∃ error stop span later, lexer.next = (⟨.bad error stop, span, lexer.isFirst⟩, [], later)) ∧
      Text.isIdentifierName name = false ∨
    ∃ word later, lexer.next =
        (⟨.word (String.ofList word) false, ⟨lexer.pos, lexer.pos + byteCount word⟩, lexer.isFirst⟩,
          [], later) ∧ word ++ later.rest = name.toList ++ after ∧
        (Text.isIdentifierName name = true ↔ word = name.toList) := by
  obtain ⟨first, rest, characters, letter, -⟩ := Text.exists_start plain
  have starts := Token.starts_of_letter letter
  have whole := Text.isIdentifierName_iff_word characters ends
  have backslash := Text.head_dropWhile_ne plain ends
  have text : name.toList ++ after = first :: (rest ++ after) := by
    rw [characters, List.cons_append]
  -- where no name starts, the letter itself is no token
  cases start : Text.isNameStart first with
  | true =>
    refine .inr ⟨(name.toList ++ after).takeWhile Text.isNamePart, ?_⟩
    rw [text] at front backslash
    obtain ⟨later, next, left⟩ := next_of_name running starts front start backslash
    rw [← text] at next left
    refine ⟨later, next, ?_, ?_⟩
    · rw [left, List.takeWhile_append_dropWhile]
    · simpa [start] using whole
  | false =>
    have wide : Text.isAlphabetic first = true := by
      rcases letter with letter | rfl | rfl
      · exact letter
      · cases start
      · cases start
    obtain ⟨later, next, -⟩ := next_of_starts starts running (front.trans text)
    rw [token_of_letter wide start] at next
    refine .inl ⟨⟨_, _, _, later, next⟩, ?_⟩
    simpa [start] using whole

theorem takesWord_iff : lexer.TakesWord name after ↔ Text.isIdentifierName name = true := by
  rcases next_of_plain running plain ends front with
    ⟨⟨_, _, _, _, next⟩, other⟩ | ⟨word, later, next, split, whole⟩
  · simp [TakesWord, next, other]
  · rw [whole, TakesWord, next]
    constructor
    · rintro ⟨_, same, -⟩
      simp only [Prod.mk.injEq, Lexed.mk.injEq, Token.word.injEq] at same
      rw [← same.1.1.1, String.toList_ofList]
    · rintro rfl
      exact ⟨later, by rw [String.ofList_toList], List.append_cancel_left split⟩

end Lexer

section Parsing

open Parse Ast

theorem Parse.get_bind {α : Type} (next : State → Parser α) (s : State) :
    (get >>= next) s = next s s := rfl

theorem Parse.set_bind {α : Type} (t : State) (next : PUnit → Parser α) (s : State) :
    (set t >>= next) s = next ⟨⟩ t := rfl

theorem Parse.bind_of_ok {α β : Type} {first : Parser α} {next : α → Parser β} {s t : State} {a : α}
    (done : first s = .ok a t) : (first >>= next) s = next a t := by
  simp only [bind, EStateM.bind, done]

variable {s : State} {lexed : Lexed} {lexer : Lexer} (fresh : s.ahead = [])
  (next : s.lexer.next = (lexed, [], lexer))

include fresh next

/-- A token that is neither the end nor a word with escapes is the next one. -/
theorem Parse.cur_of_next (more : lexed.isEof = false)
    (unescaped : ∀ word, lexed.token ≠ .word word true) :
    cur s = .ok lexed { s with lexer, ahead := [lexed] } := by
  have read : readToken s = .ok lexed { s with lexer } := by
    simp only [readToken, get_bind, set_bind, next, List.forM]
    rfl
  simp only [cur, get_bind, fresh, bind_of_ok read, more]
  rfl

theorem Parse.propertyKey_of_word (self : Self) {word : String}
    (found : lexed.token = .word word false) :
    propertyKey self s =
      .ok (.name ⟨lexed.span, word⟩) { s with lexer, ahead := [], prev := lexed.span } := by
  have first : cur s = .ok lexed { s with lexer, ahead := [lexed] } := by
    apply cur_of_next fresh next <;> simp [Lexed.isEof, found]
  obtain ⟨token, span, afterLine⟩ := lexed
  subst found
  simp only [propertyKey, required, bind, EStateM.bind, first]
  rfl

theorem Parse.propertyKey_of_bad (self : Self) {error : SourceError} {stop : Nat}
    (found : lexed.token = .bad error stop) :
    propertyKey self s = .error error { s with lexer, ahead := [], prev := lexed.span } := by
  have first : cur s = .ok lexed { s with lexer, ahead := [lexed] } := by
    apply cur_of_next fresh next <;> simp [Lexed.isEof, found]
  obtain ⟨token, span, afterLine⟩ := lexed
  subst found
  simp only [propertyKey, required, bind, EStateM.bind, first]
  rfl

omit next in
/-- A name that a configuration may give is taken for the key of a property, with nothing behind it,
exactly if it is an identifier name. -/
theorem Parse.propertyKey_iff (self : Self) (running : s.lexer.broken = none) {name : String}
    (plain : Text.isPlainName name = true) {after : List Char} (ends : Text.EndsName after)
    (front : s.lexer.rest = name.toList ++ after) :
    (∃ span later, propertyKey self s = .ok (.name ⟨span, name⟩) later ∧
        later.ahead = [] ∧ later.lexer.rest = after) ↔
      Text.isIdentifierName name = true := by
  rcases Lexer.next_of_plain running plain ends front with
    ⟨⟨_, _, _, _, next⟩, other⟩ | ⟨word, later, next, split, whole⟩
  · simp [propertyKey_of_bad fresh next self rfl, other]
  · rw [whole, propertyKey_of_word fresh next self rfl]
    constructor
    · rintro ⟨_, _, same, -⟩
      cases same
      rw [String.toList_ofList]
    · rintro rfl
      exact ⟨_, _, by rw [String.ofList_toList], rfl, List.append_cancel_left split⟩

end Parsing

end GrammarEmbed
