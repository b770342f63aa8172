import GrammarEmbed.Text.Character

namespace GrammarEmbed.Text

/-- A letter, `_` or `$`, then letters, digits, `_` and `$`, in the sense of the wide character
classes. -/
def isPlainName (name : String) : Bool :=
  match name.toList with
  | [] => false
  | first :: rest =>
    (isAlphabetic first || first == '_' || first == '$') &&
      rest.all fun c => isAlphabetic c || isNumeric c || c == '_' || c == '$'

def isIdentifierName (name : String) : Bool :=
  match name.toList with
  | [] => false
  | first :: rest => isNameStart first && rest.all isNamePart

end GrammarEmbed.Text
