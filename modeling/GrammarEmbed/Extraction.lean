import GrammarEmbed.Error
import GrammarEmbed.Table

namespace GrammarEmbed

/-- What a class of a loaded module does. -/
inductive ParserClass where
  | grammar (value : Json.Value)
  | constructFails (message : String)
  | introspectFails (message : String)
deriving Repr, Inhabited

namespace ParserClass

/-- Constructing the class; the result answers introspection. -/
def instantiate : ParserClass → Except String (Except String Json.Value)
  | .constructFails message => .error message
  | .introspectFails message => .ok (.error message)
  | .grammar value => .ok (.ok value)

/-- The grammar, or the message of whichever step failed. -/
def describe (c : ParserClass) : Except String Json.Value := do
  let instance_ ← c.instantiate
  instance_

end ParserClass

abbrev ParserExports := Table ParserClass

abbrev Grammars := Table Json.Value

/-- The grammars of all exported classes, or the failure of the first class that has one. -/
def extractGrammars (filename : String) (exports : ParserExports) : Except Error Grammars :=
  exports.entries.foldlM (fun grammars entry =>
    match entry.2.describe with
    | .ok grammar => .ok (grammars.insert entry.1 grammar)
    | .error message => .error (.extraction filename entry.1 message)) {}

end GrammarEmbed
