import GrammarEmbed.Error
import GrammarEmbed.Layout.Program
import GrammarEmbed.Parse.Program

namespace GrammarEmbed

open Ast (Program)

/-- A line, counted from one, and a column in cells, counted from zero. -/
structure Location where
  line : Nat := 1
  column : Nat := 0
deriving DecidableEq, Repr

/-- The location of the character that is `bytes` bytes ahead. A carriage return and line feed end
one line together. -/
def locate (place : Location) : (bytes : Nat) → List Char → Location
  | 0, _ | _, [] => place
  | bytes, '\r' :: '\n' :: rest =>
    if bytes ≤ 1 then place else locate ⟨place.line + 1, 0⟩ (bytes - 2) rest
  | bytes, c :: rest =>
    if c == '\n' || c == '\r' then locate ⟨place.line + 1, 0⟩ (bytes - 1) rest
    else locate { place with column := place.column + Text.width c } (bytes - c.utf8Size) rest

def SourceError.describe (error : SourceError) (text : List Char) : String :=
  let place := locate {} (error.place - 1) text
  toString place.line ++ ":" ++ toString (place.column + 1) ++ ": " ++ error.fault.message

structure Source where
  program : Program
  comments : Comments

namespace Source

def withoutMark (text : String) : String :=
  match text.toList with
  | '\ufeff' :: rest => String.ofList rest
  | _ => text

def parse (text filename : String) : Except Error Source :=
  let text := withoutMark text
  match Parse.run text with
  | .ok (program, comments) => .ok { program, comments }
  | .error error => .error (.parse filename (error.describe text.toList))

def print (source : Source) : String × Comments :=
  source.program.print source.comments

end Source

end GrammarEmbed
