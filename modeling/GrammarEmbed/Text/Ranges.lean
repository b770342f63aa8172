namespace GrammarEmbed.Text

/-- Membership of a code point in inclusive ranges that are listed in increasing order. -/
def inRanges : List (Nat × Nat) → Nat → Bool
  | [], _ => false
  | (first, last) :: rest, code =>
    if code < first then false else if code ≤ last then true else inRanges rest code

end GrammarEmbed.Text
