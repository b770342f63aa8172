import GrammarEmbed.Comments

/-!
Layouts: what to print, in order, with slots for the comments of a position. A layout is written
out by a writer that holds the comments still to be printed. Indentation is four spaces a level
and is written before the first text of a line; ending a line that is still empty does nothing.
-/

namespace GrammarEmbed

inductive Layout where
  | empty
  | text (s : String)
  | line
  | indented (body : Layout)
  | append (first second : Layout)
  /-- The comments that lead the token at a position. -/
  | leading (pos : Nat)
  /-- The comments that trail the token ending at a position. -/
  | trailing (pos : Nat)
  /-- The comments that trail the token ending at a position, right behind it. -/
  | attached (pos : Nat)
  /-- A comma if the source has one before the last character between two positions. -/
  | commaIn (lo hi : Nat)
  /-- A line end if comments lead the token at a position. -/
  | lineIfLeading (pos : Nat)
  /-- An operand after a keyword that no line end may follow: in parentheses if a comment before
  it brings a line end, or if any comment stands there and that is enough; else after a space. -/
  | guarded (pos : Nat) (isEnough : Bool) (body : Layout)
deriving Repr, Inhabited

namespace Layout

instance : Append Layout := ⟨append⟩

def concat : List Layout → Layout
  | [] => empty
  | part :: rest => part ++ concat rest

end Layout

/-- Text written so far, whether its last line is empty, the level of indentation, and the
comments not printed yet. -/
structure Writer where
  written : String := ""
  lineStart : Bool := true
  level : Nat := 0
  comments : Comments := {}
deriving Repr, Inhabited

namespace Writer

/-- The spaces of `level` levels of indentation. -/
def indentation : Nat → String
  | 0 => ""
  | level + 1 => "    " ++ indentation level

/-- Writes a text; at the start of a line the indentation first. -/
def put (w : Writer) (s : String) : Writer :=
  if s.isEmpty then w
  else if w.lineStart then
    { w with written := w.written ++ indentation w.level ++ s, lineStart := false }
  else { w with written := w.written ++ s }

@[simp] theorem comments_put (w : Writer) (s : String) : (w.put s).comments = w.comments := by
  unfold put
  split
  · rfl
  · split <;> rfl

/-- Ends the line unless it is empty. -/
def endLine (w : Writer) : Writer :=
  if w.lineStart then w else { w with written := w.written ++ "\n", lineStart := true }

@[simp] theorem comments_endLine (w : Writer) : w.endLine.comments = w.comments := by
  unfold endLine
  split <;> rfl

/-- Writes a comment: one that ends with its line, or one with a space after it. -/
def putComment (w : Writer) (c : Comment) : Writer :=
  match c.kind with
  | .line => (w.put ("//" ++ c.text)).endLine
  | .block => w.put ("/*" ++ c.text ++ "*/ ")

@[simp] theorem comments_putComment (w : Writer) (c : Comment) :
    (w.putComment c).comments = w.comments := by
  unfold putComment
  split <;> simp

def breaksLine (c : Comment) : Bool :=
  c.kind == .line || c.text.any fun x => x == '\n' || x == '\r' || x == '\u2028' || x == '\u2029'

def putLeading (w : Writer) (pos : Nat) : Writer :=
  let (taken, rest) := w.comments.takeLeading pos
  taken.foldl putComment { w with comments := rest }

def putTrailing (w : Writer) (pos : Nat) : Writer :=
  let (taken, rest) := w.comments.takeTrailing pos
  taken.foldl (fun w c => (w.put " ").putComment c) { w with comments := rest }

def putAttached (w : Writer) (pos : Nat) : Writer :=
  let (taken, rest) := w.comments.takeTrailing pos
  taken.foldl putComment { w with comments := rest }

def run (w : Writer) : Layout → Writer
  | .empty => w
  | .text s => w.put s
  | .line => w.endLine
  | .indented body =>
    let inner := run { w with level := w.level + 1 } body
    { inner with level := inner.level - 1 }
  | .append first second => run (run w first) second
  | .leading pos => w.putLeading pos
  | .trailing pos => w.putTrailing pos
  | .attached pos => w.putAttached pos
  | .commaIn lo hi => if w.comments.endsInComma lo hi then w.put ", " else w
  | .lineIfLeading pos => if w.comments.hasLeading pos then w.endLine else w
  | .guarded pos isEnough body =>
    if (Comments.at_ pos w.comments.leading).any fun c => isEnough || breaksLine c then
      (run (w.put "(") body).put ")"
    else run (w.put " ") body

end Writer

end GrammarEmbed
