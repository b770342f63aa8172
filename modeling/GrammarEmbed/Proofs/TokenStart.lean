import GrammarEmbed.Token.Lexer

namespace GrammarEmbed

/-- A character that is no blank and starts neither a comment nor a line that is passed over. -/
def Token.Starts (c : Char) : Prop :=
  Text.isLineEnd c = false ∧ Text.isBlank c = false ∧
    c ∉ ['\ufeff', '/', '<', '-', '=', '>', '#', '\x00']

variable {c : Char} (starts : Token.Starts c)

include starts

theorem Token.gap_of_starts (before : Before) (rest : List Char) (found : Gap) :
    gap before .blank (c :: rest) found = (found, c :: rest) := by
  obtain ⟨noLineEnd, noBlank, others⟩ := starts
  simp only [List.mem_cons, List.not_mem_nil, or_false, not_or] at others
  obtain ⟨noMark, noSlash, noLess, noMinus, noEquals, noGreater, -, -⟩ := others
  have noConflict : isConflictMarker (c :: rest) = false := by
    simp [isConflictMarker, List.isPrefixOf, Ne.symm noLess, Ne.symm noEquals, Ne.symm noGreater]
  rw [gap]
  · simp [noLineEnd, noBlank, noMark, noConflict]
  all_goals simp_all

/-- The next token is the one that is read from here. -/
theorem Lexer.next_of_starts {lexer : Lexer} (running : lexer.broken = none) {rest : List Char}
    (front : lexer.rest = c :: rest) :
    ∃ later,
      let found := token lexer.pos lexer.isFirst c rest
      lexer.next =
        (⟨found.token, ⟨lexer.pos, lexer.pos + byteCount found.used⟩, lexer.isFirst⟩,
          found.notices, later) ∧ later.rest = found.rest := by
  have others := starts.2.2
  simp only [List.mem_cons, List.not_mem_nil, or_false, not_or] at others
  obtain ⟨-, -, -, -, -, -, noHash, noNull⟩ := others
  have step : lexer.next = lexer.tokenAfter
      { pos := lexer.pos, afterLine := lexer.isFirst, leading := lexer.pending } (c :: rest) := by
    unfold next
    rw [running, front]
    split
    case h_1 some => cases some
    case h_2 same => exact absurd (List.cons.inj same).1 noHash
    case h_3 => rw [Token.gap_of_starts starts]
  rw [step]
  unfold tokenAfter
  split
  case h_1 same => cases same
  case h_2 same => exact absurd (List.cons.inj same).1 noNull
  case h_3 same =>
    cases same
    exact ⟨_, rfl, rfl⟩

end GrammarEmbed
