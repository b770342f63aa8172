import GrammarEmbed.Files
import GrammarEmbed.Node

namespace GrammarEmbed.CommandLine

structure Options where
  input : String
  output : Option String := none
  config : Option String := none
  node : Option String := none
  debug : Bool := false
deriving DecidableEq, Repr

/-- What the arguments of a call come to. -/
inductive Command where
  | precompile (options : Options)
  | help
  | version
  /-- The arguments cannot be used as the message says. -/
  | misuse (message : String)
deriving DecidableEq, Repr

/-- The arguments read so far. -/
structure Partial where
  input : Option String := none
  output : Option String := none
  config : Option String := none
  node : Option String := none
  debug : Bool := false
deriving DecidableEq, Repr

inductive Setting where
  | output
  | config
  | node
deriving DecidableEq, Repr

def Setting.usage : Setting → String
  | .output => "--output <OUTPUT>"
  | .config => "--config <FILE>"
  | .node => "--node <PATH>"

def Setting.ofLong? : String → Option Setting
  | "output" => some .output
  | "config" => some .config
  | "node" => some .node
  | _ => none

def unexpected (argument : String) : Command :=
  .misuse ("unexpected argument '" ++ argument ++ "' found")

def valueRequired (usage : String) : Command :=
  .misuse ("a value is required for '" ++ usage ++ "' but none was supplied")

def usedTwice (usage : String) : Command :=
  .misuse ("the argument '" ++ usage ++ "' cannot be used multiple times")

namespace Partial

def get? (seen : Partial) : Setting → Option String
  | .output => seen.output
  | .config => seen.config
  | .node => seen.node

/-- Gives an option its value: it takes one only, and not the empty text. -/
def set (seen : Partial) (setting : Setting) (value : String) : Except Command Partial :=
  if value.isEmpty then .error (valueRequired setting.usage)
  else if (seen.get? setting).isSome then .error (usedTwice setting.usage)
  else
    match setting with
    | .output => .ok { seen with output := some value }
    | .config => .ok { seen with config := some value }
    | .node => .ok { seen with node := some value }

def setDebug (seen : Partial) : Except Command Partial :=
  if seen.debug then .error (usedTwice "--debug") else .ok { seen with debug := true }

/-- An argument that belongs to no option. -/
def setInput (seen : Partial) (value : String) : Except Command Partial :=
  if seen.input.isSome then .error (unexpected value)
  else if value.isEmpty then .error (valueRequired "<INPUT>")
  else .ok { seen with input := some value }

def finish (seen : Partial) : Command :=
  match seen.input with
  | none => .misuse "the following required arguments were not provided: <INPUT>"
  | some input => .precompile ⟨input, seen.output, seen.config, seen.node, seen.debug⟩

end Partial

inductive Argument where
  /-- Two dashes alone: no options follow. -/
  | dashes
  /-- Two dashes and a name, with the value behind an equals sign. -/
  | long (name : String) (value : Option String)
  /-- A dash and letters. -/
  | short (letters : List Char)
  | plain
deriving DecidableEq, Repr

/-- A lone dash is no option. -/
def Argument.of (argument : String) : Argument :=
  match argument.toList with
  | ['-', '-'] => .dashes
  | '-' :: '-' :: name =>
    match name.span fun c => c != '=' with
    | (name, _ :: value) => .long (String.ofList name) (some (String.ofList value))
    | (name, []) => .long (String.ofList name) none
  | '-' :: c :: letters => .short (c :: letters)
  | _ => .plain

/-- What a group of letters comes to: `-o` takes the rest of the group, after an equals sign if
there is one, or else waits for the next argument. -/
def shortOptions (argument : String) (seen : Partial) :
    List Char → Except Command (Partial × Option Setting)
  | [] => .ok (seen, none)
  | 'h' :: _ => .error .help
  | 'V' :: _ => .error .version
  | 'o' :: [] => .ok (seen, some .output)
  | 'o' :: '=' :: value => do return (← seen.set .output (String.ofList value), none)
  | 'o' :: value => do return (← seen.set .output (String.ofList value), none)
  | _ :: _ => .error (unexpected argument)

/-- What a long option comes to; one that needs a value and has none waits for it. -/
def longOption (argument : String) (seen : Partial) (name : String) (value : Option String) :
    Except Command (Partial × Option Setting) :=
  match Setting.ofLong? name, value with
  | some setting, some value => do return (← seen.set setting value, none)
  | some setting, none => .ok (seen, some setting)
  | none, some _ => .error (unexpected argument)
  | none, none =>
    match name with
    | "debug" => do return (← seen.setDebug, none)
    | "help" => .error .help
    | "version" => .error .version
    | _ => .error (unexpected argument)

/-- Reads arguments that can be no options. -/
def readPlain (seen : Partial) (arguments : List String) : Except Command Partial :=
  arguments.foldlM Partial.setInput seen

/-- Reads arguments, the first of which may be the value that an option waits for. -/
def readArguments : Partial → Option Setting → List String → Except Command Partial
  | seen, none, [] => .ok seen
  | _, some setting, [] => .error (valueRequired setting.usage)
  | seen, waiting, argument :: rest =>
    match Argument.of argument, waiting with
    | .plain, some setting => do readArguments (← seen.set setting argument) none rest
    | .plain, none => do readArguments (← seen.setInput argument) none rest
    | _, some setting => .error (valueRequired setting.usage)
    | .dashes, none => readPlain seen rest
    | .long name value, none => do
      let (seen, waiting) ← longOption argument seen name value
      readArguments seen waiting rest
    | .short letters, none => do
      let (seen, waiting) ← shortOptions argument seen letters
      readArguments seen waiting rest

def Command.ofArguments (arguments : List String) : Command :=
  match readArguments {} none arguments with
  | .ok seen => seen.finish
  | .error command => command

def usage : String := "Usage: grammar-precompile [OPTIONS] <INPUT>\n"

def helpText : String :=
  "Precompile Chevrotain grammars into JavaScript sources\n\n" ++ usage ++
  "\nArguments:\n" ++
  "  <INPUT>  Source file or directory\n" ++
  "\nOptions:\n" ++
  "  -o, --output <OUTPUT>  Output file, or output directory when INPUT is a directory\n" ++
  "      --config <FILE>    JSON configuration, bare or as \x7b \"options\": \x7b ... \x7d \x7d\n" ++
  "      --node <PATH>      Node.js executable (default: first `node` on PATH)\n" ++
  "      --debug            Log per-file diagnostics\n" ++
  "  -h, --help             Print help\n" ++
  "  -V, --version          Print version\n"

def versionText : String := "grammar-precompile 0.1.0\n"

/-- What a call leaves behind besides files. -/
structure Exit where
  code : Nat := 0
  stdout : String := ""
  stderr : String := ""
deriving DecidableEq, Repr

/-- A failure as it is told to the caller: what was tried, then the causes, outermost first. -/
structure Failure where
  context : String
  causes : List String := []
deriving DecidableEq, Repr

namespace Failure

/-- A failure with an error and what that error only wraps as its causes. -/
def ofError (context : String) (error : Error) : Failure :=
  ⟨context, error.message :: error.cause?.toList⟩

/-- Sets every line after the first in by the given blanks. -/
def indentLines (blanks text : String) : String :=
  String.ofList (text.toList.flatMap fun c => if c == '\n' then c :: blanks.toList else [c])

/-- A number of causes up to nine is set in four blanks. -/
def numbered (index : Nat) (cause : String) : String :=
  let number := toString index
  String.ofList (List.replicate (5 - number.length) ' ') ++ number ++ ": " ++
    indentLines "       " cause

/-- Causes stand on lines of their own, and several are numbered. -/
def message (failure : Failure) : String :=
  match failure.causes with
  | [] => "Error: " ++ failure.context ++ "\n"
  | [cause] =>
    "Error: " ++ failure.context ++ "\n\nCaused by:\n    " ++ indentLines "    " cause ++ "\n"
  | causes =>
    "Error: " ++ failure.context ++ "\n\nCaused by:\n" ++
      String.join ((causes.zipIdx).map fun (cause, index) => numbered index cause ++ "\n")

end Failure

structure Environment (m : Type → Type) where
  store : FileStore m
  host : Node.Host m
  /-- The first executable on the search path. -/
  findNode : m (Option String)

variable {m : Type → Type} [Monad m]

abbrev Step (m : Type → Type) (α : Type) := ExceptT Failure m α

def Step.lift {α : Type} (step : m α) : Step m α := step

/-- A step whose error is told with what was tried. -/
def Step.trying {α : Type} (context : String) (step : ExceptT Error m α) : Step m α := do
  match ← Step.lift step.run with
  | .ok value => return value
  | .error error => throw (.ofError context error)

/-- The configuration of a call: a file's, or the default one. -/
def loadConfig (environment : Environment m) (options : Options) : Step m Config := do
  let config ← match options.config with
    | none => pure ({} : Config)
    | some path =>
      match ← Step.lift (environment.store.read path) with
      | .error fault => throw ⟨"Failed to read config " ++ path, [fault.message]⟩
      | .ok text => Step.trying ("Invalid config " ++ path) (ExceptT.mk (pure (Config.ofJson text)))
  return if options.debug then { config with debug := true } else config

/-- The executable of a call: the given one, or one that is looked for. -/
def chooseNode (environment : Environment m) (options : Options) : Step m String := do
  match options.node with
  | some node => return node
  | none =>
    match ← Step.lift environment.findNode with
    | some node => return node
    | none => throw (.ofError "Install Node.js or pass --node" .nodeNotFound)

/-- What a directory run prints: failed files one by one, then how many they were. -/
def Exit.ofSummary (summary : Summary) : Exit where
  code := if summary.success then 0 else 1
  stdout := "Processed " ++ toString summary.processed ++ " files, " ++
    toString summary.transformed ++ " transformed\n"
  stderr := String.join (summary.errors.map fun error => error ++ "\n") ++
    if summary.success then ""
    else (Failure.mk (toString summary.errors.length ++ " file(s) failed") []).message

def precompile (environment : Environment m) (options : Options) : Step m Exit := do
  let config ← loadConfig environment options
  let node ← chooseNode environment options
  let files : FilePrecompiler m :=
    { store := environment.store
      runtime := Node.runtime environment.store environment.host node config.introspectionMethod
      config }
  let context := "Failed to precompile " ++ options.input
  if ← Step.lift (environment.store.isDirectory options.input) then
    match options.output with
    | none => throw ⟨"--output is required when INPUT is a directory", []⟩
    | some output =>
      return .ofSummary (← Step.trying context (files.transformDirectory options.input output))
  else
    match options.output with
    | some output =>
      let _ ← Step.trying context (files.transformFile options.input output)
      return {}
    | none =>
      let (code, _) ← Step.trying context (files.precompileFile options.input)
      return { stdout := code }

def run (environment : Environment m) (arguments : List String) : m Exit := do
  match Command.ofArguments arguments with
  | .help => return { stdout := helpText }
  | .version => return { stdout := versionText }
  | .misuse message =>
    return { code := 2, stderr := "error: " ++ message ++ "\n\n" ++ usage ++
      "\nFor more information, try '--help'.\n" }
  | .precompile options =>
    match ← (precompile environment options).run with
    | .ok exit => return exit
    | .error failure => return { code := 1, stderr := failure.message }

end GrammarEmbed.CommandLine
