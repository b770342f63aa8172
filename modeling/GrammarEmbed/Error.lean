import GrammarEmbed.Config

namespace GrammarEmbed

inductive IoFault where
  | notFound
  | alreadyExists
  | notDirectory
  | isDirectory
  | permissionDenied
  | invalidUtf8
  | noSourceDirectory (path : String)
deriving DecidableEq, Repr

def IoFault.message : IoFault → String
  | .notFound => "No such file or directory (os error 2)"
  | .permissionDenied => "Permission denied (os error 13)"
  | .alreadyExists => "File exists (os error 17)"
  | .notDirectory => "Not a directory (os error 20)"
  | .isDirectory => "Is a directory (os error 21)"
  | .invalidUtf8 => "stream did not contain valid UTF-8"
  | .noSourceDirectory path => "Source directory does not exist: " ++ path

inductive Error where
  | parse (filename message : String)
  | load (filename message : String)
  | extraction (filename className message : String)
  | nodeNotFound
  | io (fault : IoFault)
  | json (error : Json.Error)
  | config (fault : ConfigFault)
deriving DecidableEq, Repr

namespace Error

def message : Error → String
  | .parse filename message => filename ++ ": " ++ message
  | .load filename message => filename ++ ": " ++ message
  | .extraction filename className message => filename ++ ": " ++ className ++ ": " ++ message
  | .nodeNotFound => "Node.js executable not found: cannot find binary path"
  | .io fault => "I/O error: " ++ fault.message
  | .json error => "JSON error: " ++ error.message
  | .config fault => "Configuration error: " ++ fault.message

/-- The underlying cause, where the error only wraps one. -/
def cause? : Error → Option String
  | .nodeNotFound => some "cannot find binary path"
  | .io fault => some fault.message
  | .json error => some error.message
  | _ => none

end Error

/-- The configuration a JSON text gives: read, then checked. -/
def Config.ofJson (text : String) : Except Error Config :=
  match Json.parse text with
  | .error error => .error (.json error)
  | .ok value =>
    match Config.ofValue value.canonical with
    | .error fault => .error (.json (.shape fault none))
    | .ok config =>
      match config.validate with
      | .error fault => .error (.config fault)
      | .ok _ => .ok config

end GrammarEmbed
