namespace GrammarEmbed.Path

def splitSlashes : List Char → List (List Char)
  | [] => [[]]
  | c :: rest =>
    if c == '/' then [] :: splitSlashes rest
    else
      match splitSlashes rest with
      | [] => [[c]]
      | name :: names => (c :: name) :: names

/-- The names of a path, dots included. -/
def names (path : String) : List String :=
  ((splitSlashes path.toList).filter fun name => !name.isEmpty).map String.ofList

def isAbsolute (path : String) : Bool :=
  path.toList.head? == some '/'

/-- Whether a path can only mean a directory because it ends in a slash. -/
def endsInSlash (path : String) : Bool :=
  path.toList.getLast? == some '/'

def join (directory below : String) : String :=
  if isAbsolute below || directory.isEmpty then below
  else if endsInSlash directory then directory ++ below
  else directory ++ "/" ++ below

/-- The directory in which a path's last name stands, as a path; empty for the working directory.
The empty path and the root stand nowhere. -/
def parent? (path : String) : Option String :=
  let names := (names path).filter fun name => name != "."
  if isAbsolute path then
    if names.isEmpty then none else some ("/" ++ "/".intercalate names.dropLast)
  else if path.isEmpty then none
  else some ("/".intercalate names.dropLast)

/-- A name is hidden if it starts with a dot. -/
def isHidden (name : String) : Bool :=
  name.toList.head? == some '.'

/-- What follows the last dot of a name, unless that dot is the first character. -/
def extension? (name : String) : Option String :=
  let (after, before) := name.toList.reverse.span fun c => c != '.'
  if name == ".." then none
  else
    match before with
    | [] => none
    | [_] => none
    | _ :: _ => some (String.ofList after.reverse)

end GrammarEmbed.Path
