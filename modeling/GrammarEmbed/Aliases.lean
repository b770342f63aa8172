namespace GrammarEmbed

/-- Names in the order of their first insertion, without repetition. -/
structure Aliases where
  names : List String := []
deriving DecidableEq, Repr, Inhabited

namespace Aliases

def contains (aliases : Aliases) (name : String) : Bool :=
  aliases.names.contains name

def insert (aliases : Aliases) (name : String) : Aliases :=
  if aliases.contains name then aliases else ⟨aliases.names ++ [name]⟩

def memberName (object member : String) : String :=
  object ++ "." ++ member

def insertMember (aliases : Aliases) (object member : String) : Aliases :=
  aliases.insert (memberName object member)

def containsMember (aliases : Aliases) (object member : String) : Bool :=
  aliases.contains (memberName object member)

def ofList (names : List String) : Aliases :=
  names.foldl insert {}

def size (aliases : Aliases) : Nat :=
  aliases.names.length

def isEmpty (aliases : Aliases) : Bool :=
  aliases.names.isEmpty

def display (aliases : Aliases) : String :=
  "[" ++ ", ".intercalate aliases.names ++ "]"

end Aliases

end GrammarEmbed
