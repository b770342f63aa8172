import GrammarEmbed.Comments
import GrammarEmbed.Text.Character
import GrammarEmbed.Token.Basic

namespace GrammarEmbed.Token

open Text (isLineEnd isBlank)

/-- What kinds of comment the token before a gap may keep on its line. -/
structure Before where
  lineComment : Bool := true
  blockComment : Bool := false
deriving DecidableEq, Repr, Inhabited

def Before.of (token : Token) : Before :=
  { lineComment := !token.isBinaryMark, blockComment := token.mayTrail }

/-- Where the reader of a gap stands: between comments, or inside one. Text is kept reversed. -/
inductive GapMode where
  | blank
  | line (text : List Char)
  | block (text : List Char) (sawLineEnd : Bool)
deriving Repr

structure Gap where
  pos : Nat
  afterLine : Bool
  leading : List Comment := []
  trailing : List Comment := []
  /-- Where the token counts as starting, if a legacy comment comes first. -/
  start : Option Nat := none
  notices : List Notice := []
deriving Repr

namespace Gap

def skip (gap : Gap) (bytes : Nat) : Gap :=
  { gap with pos := gap.pos + bytes }

def endLine (gap : Gap) : Gap :=
  { gap with afterLine := true }

def add (gap : Gap) (leads : Bool) (kind : CommentKind) (text : List Char) : Gap :=
  let comment : Comment := ⟨kind, String.ofList text.reverse⟩
  if leads then { gap with leading := gap.leading ++ [comment] }
  else { gap with trailing := gap.trailing ++ [comment] }

/-- Ends a line comment, which leads the next token if a line ended before it. -/
def addLine (gap : Gap) (before : Before) (text : List Char) : Gap :=
  gap.add (gap.afterLine || !before.lineComment) .line text

/-- Ends a block comment; in front of a semicolon it trails. -/
def addBlock (gap : Gap) (before : Before) (text : List Char) (sawLineEnd : Bool)
    (rest : List Char) : Gap :=
  let next := (rest.dropWhile fun c => isBlank c || c == '\ufeff').head?
  let leads := (gap.afterLine || !before.blockComment) && next != some ';'
  let gap := gap.add leads .block text
  if sawLineEnd then gap.endLine else gap

/-- Passes over text that is a fault, at which the next token counts as starting. -/
def flag (gap : Gap) (scope : Scope) (fault : Fault) (bytes : Nat) : Gap :=
  { gap with
    pos := gap.pos + bytes
    start := some (gap.start.getD gap.pos)
    notices := gap.notices ++ [⟨scope, ⟨gap.pos, fault⟩⟩] }

end Gap

/-- Whether a line starts with what a failed merge leaves between its parts. -/
def isConflictMarker (text : List Char) : Bool :=
  ["<<<<<<< ", "=======", ">>>>>>> "].any fun marker => marker.toList.isPrefixOf text

/-- Reads a gap and returns it with the text behind it. A line of a failed merge is passed over, as
are the legacy comments, which modules may not have. -/
def gap (before : Before) : GapMode → List Char → Gap → Gap × List Char
  | .blank, [], found => (found, [])
  | .line text, [], found => (found.addLine before text, [])
  | .block .., [], found =>
    ({ found with notices := found.notices ++ [⟨.always, ⟨found.pos, .unterminatedComment⟩⟩] }, [])
  | .line text, c :: rest, found =>
    if isLineEnd c then
      gap before .blank rest ((found.addLine before text).endLine.skip c.utf8Size)
    else gap before (.line (c :: text)) rest (found.skip c.utf8Size)
  | .block text sawLineEnd, '*' :: '/' :: rest, found =>
    gap before .blank rest ((found.addBlock before text sawLineEnd rest).skip 2)
  | .block text sawLineEnd, c :: rest, found =>
    gap before (.block (c :: text) (sawLineEnd || isLineEnd c)) rest (found.skip c.utf8Size)
  | .blank, '/' :: '/' :: rest, found => gap before (.line []) rest (found.skip 2)
  | .blank, '/' :: '*' :: rest, found => gap before (.block [] false) rest (found.skip 2)
  | .blank, '<' :: '!' :: '-' :: '-' :: rest, found =>
    gap before (.line []) rest (found.flag .module .legacyComment 4)
  | .blank, '-' :: '-' :: '>' :: rest, found =>
    if found.afterLine then gap before (.line []) rest (found.flag .module .legacyComment 3)
    else (found, '-' :: '-' :: '>' :: rest)
  | .blank, c :: rest, found =>
    if isLineEnd c then gap before .blank rest (found.endLine.skip c.utf8Size)
    else if isBlank c || c == '\ufeff' then gap before .blank rest (found.skip c.utf8Size)
    else if found.afterLine && isConflictMarker (c :: rest) then
      gap before (.line []) rest (found.flag .always .conflictMarker 1)
    else (found, c :: rest)

end GrammarEmbed.Token
