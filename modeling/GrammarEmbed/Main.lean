import GrammarEmbed.CommandLine

/-!
The command. Clones are run by whoever is at the other end of the standard streams: for each one a
line of JSON goes to standard error, and the result document is the next line of standard input.
-/

namespace GrammarEmbed.Main

/-- The kind of a failure of the operating system. -/
def faultOf : IO.Error → IoFault
  | .noFileOrDirectory .. => .notFound
  | .alreadyExists .. => .alreadyExists
  | .permissionDenied .. => .permissionDenied
  | .inappropriateType _ code _ => if code == 20 then .notDirectory else .isDirectory
  | _ => .notFound

def attempt {α : Type} (action : IO α) : IO (Except IoFault α) := do
  match ← action.toBaseIO with
  | .ok value => return .ok value
  | .error error => return .error (faultOf error)

def readText (path : String) : IO (Except IoFault String) := do
  match ← attempt (IO.FS.readBinFile ⟨path⟩) with
  | .error fault => return .error fault
  | .ok bytes => return (Content.ofBytes bytes.toList).toText

def isDirectory (path : String) : IO Bool := do
  match ← (IO.FS.realPath ⟨path⟩).toBaseIO with
  | .ok place => place.isDir
  | .error _ => return false

def sortedNames (path : String) : IO (List String) := do
  let entries ← (← IO.FS.realPath ⟨path⟩).readDir
  let names := entries.toList.map fun entry => entry.fileName
  return names.mergeSort fun a b => a < b || a == b

def store : FileStore IO where
  read := readText
  isDirectory := isDirectory
  createDirectories path := attempt (if path.isEmpty then pure () else IO.FS.createDirAll ⟨path⟩)
  write path text := attempt (IO.FS.writeFile ⟨path⟩ text)
  list path := attempt (sortedNames path)
  resolve path := attempt (return [(← IO.FS.realPath ⟨path⟩).toString])
  levels := return 4096

def hexDigits (numbers : List Nat) : String :=
  String.ofList (numbers.map Nat.digitChar)

def fresh : IO String := do
  let numbers ← (List.range 32).mapM fun _ => IO.rand 0 15
  return hexDigits numbers

/-- What is asked of the other end, as one line. -/
def request (invocation : Node.Invocation) : String :=
  let directory := match invocation.directory with
    | .beside path => path
    | .temporary => ""
  (Json.Value.obj [("node", .str invocation.executable), ("directory", .str directory),
    ("extension", .str invocation.format.extension), ("key", .str invocation.exportKey),
    ("format", .str (Node.formatName invocation.format)), ("method", .str invocation.method),
    ("code", .str invocation.code)]).compact

def start (invocation : Node.Invocation) : IO (Except IoFault Node.Run) := do
  (← IO.getStderr).putStrLn (request invocation)
  let document ← (← IO.getStdin).getLine
  return .ok ⟨.text document, .text ""⟩

/-- The first executable of the search path's directories. -/
def findIn : List String → IO (Option String)
  | [] => return none
  | directory :: rest => do
    let path := Path.join directory "node"
    match ← (IO.FS.realPath ⟨path⟩).toBaseIO with
    | .ok place =>
      if (← place.pathExists) && !(← place.isDir) then return some path else findIn rest
    | .error _ => findIn rest

def findNode : IO (Option String) := do
  match ← IO.getEnv "PATH" with
  | none => return none
  | some directories => findIn (directories.splitOn ":")

def environment : CommandLine.Environment IO where
  store := store
  host := ⟨fresh, start⟩
  findNode := findNode

end GrammarEmbed.Main

def main (arguments : List String) : IO UInt32 := do
  let exit ← GrammarEmbed.CommandLine.run GrammarEmbed.Main.environment arguments
  (← IO.getStdout).putStr exit.stdout
  (← IO.getStderr).putStr exit.stderr
  return UInt32.ofNat exit.code
