import GrammarEmbed.Text.Character

/-!
Comments of a source text. Each comment belongs to a position: it leads the token that starts
there, or trails the token that ends there. Taking the comments of a position removes them, so
that each is printed at most once. The text itself is kept beside them, because no tree knows
whether a comma ended a list.
-/

namespace GrammarEmbed

inductive CommentKind where
  | line
  | block
deriving DecidableEq, Repr, Inhabited

/-- A comment without its delimiters. -/
structure Comment where
  kind : CommentKind
  text : String
deriving DecidableEq, Repr, Inhabited

structure Comments where
  leading : List (Nat × Comment) := []
  trailing : List (Nat × Comment) := []
  /-- The text that positions refer to, empty if there is none. -/
  source : List Char := []
deriving DecidableEq, Repr, Inhabited

namespace Comments

/-- The entries of a position. -/
def at_ (pos : Nat) (entries : List (Nat × Comment)) : List Comment :=
  (entries.filter fun entry => entry.1 == pos).map Prod.snd

def without (pos : Nat) (entries : List (Nat × Comment)) : List (Nat × Comment) :=
  entries.filter fun entry => entry.1 != pos

def hasLeading (comments : Comments) (pos : Nat) : Bool :=
  comments.leading.any fun entry => entry.1 == pos

def takeLeading (comments : Comments) (pos : Nat) : List Comment × Comments :=
  (at_ pos comments.leading, { comments with leading := without pos comments.leading })

def takeTrailing (comments : Comments) (pos : Nat) : List Comment × Comments :=
  (at_ pos comments.trailing, { comments with trailing := without pos comments.trailing })

def addLeading (comments : Comments) (pos : Nat) (more : List Comment) : Comments :=
  { comments with leading := comments.leading ++ more.map fun c => (pos, c) }

def addTrailing (comments : Comments) (pos : Nat) (more : List Comment) : Comments :=
  { comments with trailing := comments.trailing ++ more.map fun c => (pos, c) }

/-- A text without its first bytes. -/
def dropBytes (bytes : Nat) : List Char → List Char
  | [] => []
  | c :: rest => if bytes == 0 then c :: rest else dropBytes (bytes - c.utf8Size) rest

def takeBytes (bytes : Nat) : List Char → List Char
  | [] => []
  | c :: rest => if bytes == 0 then [] else c :: takeBytes (bytes - c.utf8Size) rest

/-- Whether a comma stands before the last character between two positions, which are counted in
bytes from one. -/
def endsInComma (comments : Comments) (lo hi : Nat) : Bool :=
  let text := takeBytes (hi - lo) (dropBytes (lo - 1) comments.source)
  (text.dropLast.reverse.dropWhile Text.isBlank).head? == some ','

end Comments

end GrammarEmbed
