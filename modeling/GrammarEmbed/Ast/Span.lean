/-!
Places in a source text. Positions are byte offsets that count from one; position zero belongs to
no text, so a node that was not read from a source has the span `Span.none`.
-/

namespace GrammarEmbed.Ast

/-- The text from position `lo` up to, and without, position `hi`. -/
structure Span where
  lo : Nat
  hi : Nat
deriving DecidableEq, Repr, Inhabited

namespace Span

/-- The span of nodes that no source text holds. -/
def none : Span := ⟨0, 0⟩

def through (first last : Span) : Span := ⟨first.lo, last.hi⟩

end Span

end GrammarEmbed.Ast
