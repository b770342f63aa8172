import GrammarEmbed.Ast.Build
import GrammarEmbed.Layout.Ast
import GrammarEmbed.Proofs.LiteralReading
import GrammarEmbed.Proofs.TokenStart
import GrammarEmbed.Proofs.WrittenJson

namespace GrammarEmbed

open Ast

section Printing

/-- No comment belongs to nodes that no source holds. -/
def Comments.NoneMade (comments : Comments) : Prop :=
  (∀ entry ∈ comments.leading, entry.1 ≠ 0) ∧ ∀ entry ∈ comments.trailing, entry.1 ≠ 0

namespace Writer

theorem put_put (w : Writer) (s t : String) : (w.put s).put t = w.put (s ++ t) := by
  unfold put
  by_cases first : s.isEmpty = true
  · obtain rfl := String.isEmpty_iff.mp first
    simp
  · by_cases second : t.isEmpty = true
    · obtain rfl := String.isEmpty_iff.mp second
      simp [first]
    · have both : (s ++ t).isEmpty = false := by simp_all
      cases w.lineStart <;> simp [first, second, both, String.append_assoc]

variable {w : Writer} (unmade : w.comments.NoneMade)

include unmade

theorem putLeading_made : w.putLeading 0 = w := by
  have none : Comments.at_ 0 w.comments.leading = [] := by
    simpa [Comments.at_] using fun pos comment => unmade.1 (pos, comment)
  have others : Comments.without 0 w.comments.leading = w.comments.leading := by
    simpa [Comments.without] using unmade.1
  simp only [putLeading, Comments.takeLeading, none, others, List.foldl_nil]

theorem putTrailing_made : w.putTrailing 0 = w ∧ w.putAttached 0 = w := by
  have none : Comments.at_ 0 w.comments.trailing = [] := by
    simpa [Comments.at_] using fun pos comment => unmade.2 (pos, comment)
  have others : Comments.without 0 w.comments.trailing = w.comments.trailing := by
    simpa [Comments.without] using unmade.2
  simp only [putTrailing, putAttached, Comments.takeTrailing, none, others, List.foldl_nil,
    and_self]

open Layout in
/-- The call is written on one line, with a literal for its argument. -/
theorem run_madeJsonParse (json : String) :
    w.run (Expr.madeJsonParse json).layout =
      w.put ("JSON.parse(" ++ Text.stringLiteral json ++ ")") := by
  have parts : (Expr.madeJsonParse json).layout =
      leading 0 ++ (leading 0 ++ (leading 0 ++ text "JSON" ++ trailing 0) ++
        (leading 0 ++ text "." ++ (leading 0 ++ text "parse")) ++ trailing 0) ++ text "(" ++
        (leading 0 ++ text (Text.stringLiteral json) ++ trailing 0 ++ attached 0 ++ .empty ++
          .empty) ++ text ")" := rfl
  have append (v : Writer) (a b : Layout) : v.run (a ++ b) = (v.run a).run b := rfl
  have kept (s : String) : (w.put s).comments.NoneMade := by rwa [comments_put]
  have name : "JSON" ++ "." ++ "parse" ++ "(" = "JSON.parse(" := by decide
  simp only [parts, append, run, putLeading_made, putTrailing_made, unmade, put_put, kept, name]

end Writer

end Printing

section Lexing

theorem Text.isQuote_literalQuote (text : List Char) : IsQuote (literalQuote text) := by
  unfold literalQuote
  split
  · exact .inr rfl
  · exact .inl rfl

/-- From here the lexer takes `written`, and nothing behind it, for a string literal that stands
for `value`, without a notice. -/
def Lexer.TakesString (lexer : Lexer) (written value : String) (after : List Char) : Prop :=
  ∃ later, lexer.next =
      (⟨.str value written, ⟨lexer.pos, lexer.pos + byteCount written.toList⟩, lexer.isFirst⟩, [],
        later) ∧ later.rest = after

theorem Token.starts_quote {quote : Char} (mark : Text.IsQuote quote) : Starts quote := by
  rcases mark with rfl | rfl <;> simp [Starts, Text.isLineEnd, Text.isBlank]

theorem Lexer.token_quote {quote : Char} (mark : Text.IsQuote quote) (pos : Nat)
    (afterLine : Bool) (rest : List Char) :
    token pos afterLine quote rest = Token.stringLiteral pos quote rest := by
  rcases mark with rfl | rfl <;> rfl

theorem Lexer.next_quote {quote : Char} (mark : Text.IsQuote quote) {lexer : Lexer}
    (running : lexer.broken = none) {rest : List Char} (front : lexer.rest = quote :: rest) :
    ∃ later,
      let found := Token.stringLiteral lexer.pos quote rest
      lexer.next =
        (⟨found.token, ⟨lexer.pos, lexer.pos + byteCount found.used⟩, lexer.isFirst⟩,
          found.notices, later) ∧ later.rest = found.rest := by
  have next := next_of_starts (Token.starts_quote mark) running front
  rwa [token_quote mark] at next

/-- A literal is found without a notice exactly if its text is read back. -/
theorem Token.stringLiteral_iff (pos : Nat) (after : List Char) {quote : Char}
    {text written : List Char}
    (literal : written = quote :: (Text.literalBody quote text ++ [quote])) {found : Found}
    (read : found = stringLiteral pos quote (Text.literalBody quote text ++ quote :: after)) :
    found.token = .str (String.ofList text) (String.ofList written) ∧ found.used = written ∧
      found.rest = after ∧ found.notices = [] ↔ Text.ReadsBack quote (pos + 1) after text := by
  subst literal read
  rw [stringLiteral, Text.ReadsBack]
  generalize stringBody quote 0 (pos + 1) (Text.literalBody quote text ++ quote :: after) = body
  obtain ⟨value, used, rest, closed, notices, error⟩ := body
  cases error with
  | some stop => simp [Stop.token]
  | none =>
    cases closed with
    | false => simp
    | true =>
      simp only [Token.str.injEq, String.ofList_inj, List.cons.injEq, true_and,
        StringBody.mk.injEq, and_true, and_assoc, if_true, and_self_left]

theorem Token.used_of_str {pos : Nat} {quote : Char} {rest : List Char} {value raw : String}
    (found : (stringLiteral pos quote rest).token = .str value raw) :
    (stringLiteral pos quote rest).used = raw.toList := by
  simp only [stringLiteral] at found ⊢
  cases stopped : (stringBody quote 0 (pos + 1) rest).error with
  | some stop =>
    rw [stopped] at found
    cases found
  | none =>
    rw [stopped] at found
    cases found
    exact String.toList_ofList.symm

/-- The lexer takes the literal for a text back as that text exactly if the text is sealed. -/
theorem Lexer.takesString_iff {lexer : Lexer} (running : lexer.broken = none) (text : String)
    {after : List Char} (front : lexer.rest = (Text.stringLiteral text).toList ++ after) :
    lexer.TakesString (Text.stringLiteral text) text after ↔
      Text.Sealed (Text.literalQuote text.toList) text.toList := by
  have mark := Text.isQuote_literalQuote text.toList
  have literal : (Text.stringLiteral text).toList = Text.literalQuote text.toList ::
      (Text.literalBody (Text.literalQuote text.toList) text.toList ++
        [Text.literalQuote text.toList]) := String.toList_ofList
  rw [literal] at front
  simp only [List.cons_append, List.append_assoc, List.nil_append] at front
  obtain ⟨later, next, rest⟩ := next_quote mark running front
  have read := Token.stringLiteral_iff lexer.pos after literal rfl
  rw [Text.readsBack_iff_sealed mark, String.ofList_toList, String.ofList_toList] at read
  rw [← read, TakesString, next]
  constructor
  · rintro ⟨_, same, left⟩
    simp only [Prod.mk.injEq, Lexed.mk.injEq] at same
    obtain ⟨⟨token, -⟩, quiet, rfl⟩ := same
    exact ⟨token, Token.used_of_str token, rest.symm.trans left, quiet⟩
  · rintro ⟨token, used, left, quiet⟩
    rw [token, used, quiet]
    exact ⟨later, rfl, rest.trans left⟩

end Lexing

namespace Json.Value

/-- A grammar within the limits of the reader is embedded as the argument of `JSON.parse`: a
literal for its compact text. The text is read back to the grammar. The literal, all of it and
nothing behind it, is read back to the text exactly if the text closes every escape of a surrogate
in braces. -/
theorem embedded_round_trip (grammar : Value) (fits : grammar.Fits maxDepth) :
    let text := grammar.compact
    let literal := Text.stringLiteral text
    (∀ w : Writer, w.comments.NoneMade →
      w.run (Expr.madeJsonParse text).layout = w.put ("JSON.parse(" ++ literal ++ ")")) ∧
    (∀ (lexer : Lexer) (after : List Char), lexer.broken = none →
      lexer.rest = literal.toList ++ after →
      (lexer.TakesString literal text after ↔
        Text.Sealed (Text.literalQuote text.toList) text.toList)) ∧
    parse text = .ok grammar := by
  intro text literal
  refine ⟨?_, ?_, parse_compact fits⟩
  · intro w unmade
    exact Writer.run_madeJsonParse unmade text
  · intro lexer after running front
    exact Lexer.takesString_iff running text front

/-- Both quotes, a line separator, the extreme numbers and closed escapes of surrogates. -/
def closedSurrogates : Value :=
  .obj [("\u2028'", .arr [.num (.int (-9223372036854775808)), .num (.int 18446744073709551615),
    .str "\\ud800 \\u\x7bd800 \x7d", .null])]

theorem embedded_round_trip_closedSurrogates :
    let text := closedSurrogates.compact
    let literal := Text.stringLiteral text
    closedSurrogates.Fits maxDepth ∧ Text.Sealed (Text.literalQuote text.toList) text.toList ∧
      (Lexer.ofText literal).TakesString literal text [] ∧ parse text = .ok closedSurrogates := by
  have fits : closedSurrogates.Fits maxDepth := by
    have items : ∀ item ∈ [Value.num (.int (-9223372036854775808)),
        .num (.int 18446744073709551615), .str "\\ud800 \\u\x7bd800 \x7d", .null],
        item.Fits 125 := by
      simp only [List.forall_mem_cons]
      exact ⟨.int (by decide) (by decide), .int (by decide) (by decide), .str _, .null, by simp⟩
    exact .obj (List.forall_mem_cons.mpr ⟨.arr items, by simp⟩)
  have written : closedSurrogates.compact.toList = closedSurrogates.write := String.toList_ofList
  have closed : Text.Sealed (Text.literalQuote closedSurrogates.write) closedSurrogates.write := by
    decide +kernel
  rw [← written] at closed
  obtain ⟨-, reads, parsed⟩ := embedded_round_trip closedSurrogates fits
  refine ⟨fits, closed, ?_, parsed⟩
  have front (s : String) : (Lexer.ofText s).rest = s.toList ++ [] := (List.append_nil _).symm
  exact (reads _ [] rfl (front _)).mpr closed

/-- A literal whose text opens an escape of a surrogate and does not close it stops the lexer. -/
theorem open_surrogate_stops_lexer :
    let grammar : Value := .str "\\u\x7bd800"
    let text := grammar.compact
    let literal := Text.stringLiteral text
    grammar.Fits maxDepth ∧ parse text = .ok grammar ∧ literal = "'\"\\\\\\u\x7bd800\"'" ∧
      (Lexer.ofText literal).next.1.token = .bad ⟨5, .invalidUnicodeEscape⟩ 14 ∧
      ¬(Lexer.ofText literal).TakesString literal text [] := by
  intro grammar text literal
  have fits : grammar.Fits maxDepth := .str _
  have written : literal = "'\"\\\\\\u\x7bd800\"'" := by
    have spelled : text.toList = grammar.write := String.toList_ofList
    simp only [literal, Text.stringLiteral, spelled]
    decide +kernel
  have stopped : (Lexer.ofText literal).next.1.token = .bad ⟨5, .invalidUnicodeEscape⟩ 14 := by
    rw [written]
    decide +kernel
  refine ⟨fits, parse_compact fits, written, stopped, ?_⟩
  rintro ⟨later, taken, -⟩
  rw [taken] at stopped
  cases stopped

end Json.Value

end GrammarEmbed
