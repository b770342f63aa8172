import GrammarEmbed.Fault
import GrammarEmbed.Ast.Span

namespace GrammarEmbed

open Ast (Span)

inductive Token where
  | word (text : String) (escaped : Bool)
  /-- A name whose first character is written as an escape, which keeps it from being a
  keyword. -/
  | name (text : String)
  | mark (text : String)
  | str (value raw : String)
  | num (value raw : String)
  | bigint (value raw : String)
  | shebang (text : String)
  /-- Text that is no token, with what is wrong about it and where that ends. -/
  | bad (error : SourceError) (stop : Nat)
  | eof
deriving DecidableEq, Repr, Inhabited

/-- A token in its place; `afterLine` says that a line ended since the token before it. -/
structure Lexed where
  token : Token
  span : Span
  afterLine : Bool
deriving DecidableEq, Repr, Inhabited

namespace Lexed

def isMark (lexed : Lexed) (text : String) : Bool :=
  match lexed.token with
  | .mark found => found == text
  | _ => false

def isWord (lexed : Lexed) (text : String) : Bool :=
  match lexed.token with
  | .word found _ => found == text
  | _ => false

def word? (lexed : Lexed) : Option String :=
  match lexed.token with
  | .word text _ | .name text => some text
  | _ => none

def isStr (lexed : Lexed) : Bool :=
  match lexed.token with
  | .str .. => true
  | _ => false

def isEof (lexed : Lexed) : Bool :=
  match lexed.token with
  | .eof => true
  | _ => false

end Lexed

/-- When a fault counts: always, in strict mode, or in a module. -/
inductive Scope where
  | always
  | strict
  | module
deriving DecidableEq, Repr, Inhabited

structure Notice where
  scope : Scope
  error : SourceError
deriving DecidableEq, Repr, Inhabited

def byteCount (chars : List Char) : Nat :=
  chars.foldl (fun count c => count + c.utf8Size) 0

/-- Words that are keywords wherever they stand. -/
def keywords : List String :=
  ["await", "break", "case", "catch", "continue", "debugger", "default", "do", "else", "finally",
    "for", "function", "if", "return", "switch", "throw", "try", "var", "let", "const", "while",
    "with", "new", "this", "super", "class", "extends", "export", "import", "yield", "in",
    "instanceof", "typeof", "void", "delete"]

/-- Words that are neither keywords nor names of values. -/
def isPlainWord (text : String) : Bool :=
  !keywords.contains text && text != "null" && text != "true" && text != "false"

/-- Marks between two operands. -/
def binaryMarks : List String :=
  ["==", "!=", "===", "!==", "<", "<=", ">", ">=", "<<", ">>", ">>>", "+", "-", "*", "/", "%",
    "|", "^", "&", "||", "&&", "**", "??"]

namespace Token

def describe : Token → String
  | word text _ | name text | mark text => text
  | str value raw => "string literal (" ++ value ++ ", " ++ raw ++ ")"
  | num value raw => "numeric literal (" ++ value ++ ", " ++ raw ++ ")"
  | bigint value raw => "bigint literal (" ++ value ++ ", " ++ raw ++ ")"
  | shebang _ => "#!"
  | bad error stop =>
    "<lexing error: Error \x7b error: (" ++ toString error.place ++ ".." ++ toString stop ++ ", "
      ++ error.fault.label ++ ") \x7d>"
  | eof => "<eof>"

def isBinaryMark : Token → Bool
  | mark text => binaryMarks.contains text
  | _ => false

/-- Whether a comment on the same line belongs to this token rather than to the next. -/
def mayTrail : Token → Bool
  | word text _ => isPlainWord text
  | name _ => true
  | mark text => text == "$\x7b" || text == "\x7d" || text == ";" || text == "\x7b"
  | str .. | num .. | bigint .. => true
  | _ => false

end Token

end GrammarEmbed
