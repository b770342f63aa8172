namespace GrammarEmbed.Ast

inductive UnaryOp where
  | minus | plus | not | bitNot | typeof | void | delete
deriving DecidableEq, Repr, Inhabited

def UnaryOp.text : UnaryOp → String
  | .minus => "-"
  | .plus => "+"
  | .not => "!"
  | .bitNot => "~"
  | .typeof => "typeof"
  | .void => "void"
  | .delete => "delete"

def UnaryOp.isWord : UnaryOp → Bool
  | .typeof | .void | .delete => true
  | _ => false

inductive UpdateOp where
  | increment | decrement
deriving DecidableEq, Repr, Inhabited

def UpdateOp.text : UpdateOp → String
  | .increment => "++"
  | .decrement => "--"

inductive BinaryOp where
  | eq | ne | strictEq | strictNe | lt | le | gt | ge | shiftLeft | shiftRight | shiftRightZero
  | add | sub | mul | div | mod | bitOr | bitXor | bitAnd | or | and | in_ | instanceof | pow
  | nullish
deriving DecidableEq, Repr, Inhabited

namespace BinaryOp

def text : BinaryOp → String
  | eq => "==" | ne => "!=" | strictEq => "===" | strictNe => "!=="
  | lt => "<" | le => "<=" | gt => ">" | ge => ">="
  | shiftLeft => "<<" | shiftRight => ">>" | shiftRightZero => ">>>"
  | add => "+" | sub => "-" | mul => "*" | div => "/" | mod => "%"
  | bitOr => "|" | bitXor => "^" | bitAnd => "&" | or => "||" | and => "&&"
  | in_ => "in" | instanceof => "instanceof" | pow => "**" | nullish => "??"

def marks : List BinaryOp :=
  [eq, ne, strictEq, strictNe, lt, le, gt, ge, shiftLeft, shiftRight, shiftRightZero, add, sub, mul,
    div, mod, bitOr, bitXor, bitAnd, or, and, pow, nullish]

def ofMark? (mark : String) : Option BinaryOp :=
  marks.find? fun op => op.text == mark

/-- How tightly an operator binds. -/
def precedence : BinaryOp → Nat
  | nullish => 1
  | or => 1
  | and => 2
  | bitOr => 3
  | bitXor => 4
  | bitAnd => 5
  | eq | ne | strictEq | strictNe => 6
  | lt | le | gt | ge | in_ | instanceof => 7
  | shiftLeft | shiftRight | shiftRightZero => 8
  | add | sub => 9
  | mul | div | mod => 10
  | pow => 11

/-- `||` and `&&`, which may not meet `??` without parentheses. -/
def isLogical : BinaryOp → Bool
  | or | and => true
  | _ => false

end BinaryOp

inductive AssignOp where
  | assign | add | sub | mul | div | mod | shiftLeft | shiftRight | shiftRightZero
  | bitOr | bitXor | bitAnd | pow | and | or | nullish
deriving DecidableEq, Repr, Inhabited

def AssignOp.text : AssignOp → String
  | .assign => "=" | .add => "+=" | .sub => "-=" | .mul => "*=" | .div => "/=" | .mod => "%="
  | .shiftLeft => "<<=" | .shiftRight => ">>=" | .shiftRightZero => ">>>="
  | .bitOr => "|=" | .bitXor => "^=" | .bitAnd => "&=" | .pow => "**="
  | .and => "&&=" | .or => "||=" | .nullish => "??="

def AssignOp.all : List AssignOp :=
  [.assign, .add, .sub, .mul, .div, .mod, .shiftLeft, .shiftRight, .shiftRightZero, .bitOr, .bitXor,
    .bitAnd, .pow, .and, .or, .nullish]

def AssignOp.ofMark? (mark : String) : Option AssignOp :=
  AssignOp.all.find? fun op => op.text == mark

inductive VarKind where
  | var | let | const
deriving DecidableEq, Repr, Inhabited

def VarKind.text : VarKind → String
  | .var => "var"
  | .let => "let"
  | .const => "const"

end GrammarEmbed.Ast
