import GrammarEmbed.Error
import GrammarEmbed.Path
import GrammarEmbed.Text.Utf8

/-!
Files and directories. `FileStore` is what the rest of the library asks of the place where files
are kept; `FileTree` is such a place as a value: the entries below a working directory, each under
the names that lead to it. The working directory is its own parent, and absolute paths start from
it too.
-/

namespace GrammarEmbed

/-- What a file holds: text, or bytes that are no text. -/
inductive Content where
  | text (value : String)
  | binary (bytes : List UInt8)
deriving DecidableEq, Repr, Inhabited

namespace Content

def ofBytes (bytes : List UInt8) : Content :=
  match Text.Utf8.decode? bytes with
  | some value => .text value
  | none => .binary bytes

def toText : Content → Except IoFault String
  | .text value => .ok value
  | .binary _ => .error .invalidUtf8

/-- The text, with replacement characters for what is none. -/
def toTextLossy : Content → String
  | .text value => value
  | .binary bytes => Text.Utf8.decodeLossy bytes

end Content

/-- The operations on files that a run needs. -/
structure FileStore (m : Type → Type) where
  /-- The text of a file. -/
  read : String → m (Except IoFault String)
  isDirectory : String → m Bool
  /-- Makes a directory and those above it that are missing. -/
  createDirectories : String → m (Except IoFault Unit)
  write : String → String → m (Except IoFault Unit)
  /-- The names in a directory, in increasing order. -/
  list : String → m (Except IoFault (List String))
  /-- The same answer for any two paths that lead to the same place. -/
  resolve : String → m (Except IoFault (List String))
  /-- No directory is nested deeper than this. -/
  levels : m Nat

inductive FileEntry where
  | directory
  | file (content : Content)
deriving DecidableEq, Repr, Inhabited

/-- What an entry may refuse: to have its text or its names read, or to have them changed. -/
inductive Access where
  | read
  | write
deriving DecidableEq, Repr, Inhabited

structure FileTree where
  entries : List (List String × FileEntry) := []
  refused : List (List String × Access) := []
deriving Repr, Inhabited

namespace FileTree

/-- What stands at a place. -/
def entry? (tree : FileTree) (place : List String) : Option FileEntry :=
  if place.isEmpty then some .directory else tree.entries.lookup place

/-- Exchanges the entry of a place that is taken, or adds one. -/
def setEntry (place : List String) (entry : FileEntry) :
    List (List String × FileEntry) → List (List String × FileEntry)
  | [] => [(place, entry)]
  | (p, e) :: rest =>
    if p == place then (p, entry) :: rest else (p, e) :: setEntry place entry rest

def set (tree : FileTree) (place : List String) (entry : FileEntry) : FileTree :=
  { tree with entries := setEntry place entry tree.entries }

def refuses (tree : FileTree) (access : Access) (place : List String) : Bool :=
  tree.refused.contains (place, access)

/-- Follows names from a place; only a directory can be left by a name. -/
def follow (tree : FileTree) : List String → List String → Except IoFault (List String)
  | place, [] => .ok place
  | place, name :: names =>
    match tree.entry? place with
    | none => .error .notFound
    | some (.file _) => .error .notDirectory
    | some .directory =>
      if name == "." then tree.follow place names
      else if name == ".." then tree.follow place.dropLast names
      else tree.follow (place ++ [name]) names

/-- Where a path leads if something is there. -/
def locate (tree : FileTree) (path : String) : Except IoFault (List String × FileEntry) := do
  if path.isEmpty then throw .notFound
  let place ← tree.follow [] (Path.names path)
  match tree.entry? place with
  | none => throw .notFound
  | some .directory => return (place, .directory)
  | some (.file content) =>
    if Path.endsInSlash path then throw .notDirectory
    return (place, .file content)

def isDirectory (tree : FileTree) (path : String) : Bool :=
  match tree.locate path with
  | .ok (_, .directory) => true
  | _ => false

def read (tree : FileTree) (path : String) : Except IoFault String := do
  let (place, entry) ← tree.locate path
  if tree.refuses .read place then throw .permissionDenied
  match entry with
  | .directory => throw .isDirectory
  | .file content => content.toText

/-- The place of a path's last name, in a directory that is there; none if the path ends in dots
and so names a directory that is there. -/
def slot? (tree : FileTree) (path : String) : Except IoFault (Option (List String)) := do
  if path.isEmpty then throw .notFound
  let names := Path.names path
  match names.getLast? with
  | none => return none
  | some name =>
    let place ← tree.follow [] names.dropLast
    match tree.entry? place with
    | none => throw .notFound
    | some (.file _) => throw .notDirectory
    | some .directory =>
      return if name == "." || name == ".." then none else some (place ++ [name])

def write (tree : FileTree) (path text : String) : Except IoFault FileTree := do
  match ← tree.slot? path with
  | none => throw .isDirectory
  | some place =>
    if Path.endsInSlash path || tree.entry? place == some .directory then throw .isDirectory
    -- a new file changes the directory that it goes into
    let changed := if (tree.entry? place).isSome then place else place.dropLast
    if tree.refuses .write changed then throw .permissionDenied
    return tree.set place (.file (.text text))

/-- Makes one directory in a directory that is there. -/
def createDirectory (tree : FileTree) (path : String) : Except IoFault FileTree := do
  match ← tree.slot? path with
  | none => throw .alreadyExists
  | some place =>
    if (tree.entry? place).isSome then throw .alreadyExists
    if tree.refuses .write place.dropLast then throw .permissionDenied
    return tree.set place .directory

/-- Makes a directory whose own parents, nearest first, are tried when it has none. What was made
stays even if a later step fails. -/
def createAll (tree : FileTree) : List String → Except IoFault Unit × FileTree
  | [] => (.ok (), tree)
  | path :: above =>
    match tree.createDirectory path with
    | .ok tree => (.ok (), tree)
    | .error .notFound =>
      match tree.createAll above with
      | (.error fault, tree) => (.error fault, tree)
      | (.ok _, tree) =>
        match tree.createDirectory path with
        | .ok tree => (.ok (), tree)
        | .error fault => (if tree.isDirectory path then .ok () else .error fault, tree)
    | .error fault => (if tree.isDirectory path then .ok () else .error fault, tree)

/-- A path and the directories above it, nearest first, without the working directory. -/
def lineage (path : String) : List String :=
  let names := (Path.names path).filter fun name => name != "."
  let start := if Path.isAbsolute path then "/" else ""
  (List.range names.length).map fun dropped =>
    start ++ "/".intercalate (names.take (names.length - dropped))

def createDirectories (tree : FileTree) (path : String) : Except IoFault Unit × FileTree :=
  tree.createAll (lineage path)

/-- The name of an entry that stands directly at a place. -/
def nameAt (place : List String) (entry : List String × FileEntry) : Option String :=
  match entry.1.getLast? with
  | some name => if entry.1.dropLast == place then some name else none
  | none => none

/-- The names of the entries that stand directly at a place, in increasing order. -/
def namesAt (tree : FileTree) (place : List String) : List String :=
  (tree.entries.filterMap (nameAt place)).mergeSort fun a b => a < b || a == b

def list (tree : FileTree) (path : String) : Except IoFault (List String) := do
  match ← tree.locate path with
  | (_, .file _) => throw .notDirectory
  | (place, .directory) =>
    if tree.refuses .read place then throw .permissionDenied
    return tree.namesAt place

/-- The greatest number of names that lead to an entry. -/
def depth (tree : FileTree) : Nat :=
  tree.entries.foldl (fun depth entry => max depth entry.1.length) 0

/-- Operations on the file tree that a computation carries along. -/
def store {m : Type → Type} [Monad m] : FileStore (StateT FileTree m) where
  read path := return (← get).read path
  isDirectory path := return (← get).isDirectory path
  createDirectories path := modifyGet fun tree => tree.createDirectories path
  write path text := modifyGet fun tree =>
    match tree.write path text with
    | .ok tree => (.ok (), tree)
    | .error fault => (.error fault, tree)
  list path := return (← get).list path
  resolve path := return ((← get).locate path).map Prod.fst
  levels := return (← get).depth + 1

end FileTree

end GrammarEmbed
