import GrammarEmbed.Json.Reader
import GrammarEmbed.Text.Identifier

/-!
The configuration of a run, and its JSON form: an object with the fields of `Config`, the list of
their values in order, or either of them under the key `options` of an object.
-/

namespace GrammarEmbed

/-- What to do with a class whose configuration literal already has the grammar property. -/
inductive DuplicatePolicy where
  | replace
  | append
  | skip
deriving DecidableEq, Repr, Inhabited

structure Config where
  debug : Bool := false
  library : String := "chevrotain"
  baseClass : String := "Parser"
  introspectionMethod : String := "getSerializedGastProductions"
  grammarProperty : String := "serializedGrammar"
  duplicatePolicy : DuplicatePolicy := .replace
deriving DecidableEq, Repr, Inhabited

/-- Why a configuration of the right shape is refused. -/
inductive ConfigFault where
  | emptyLibrary
  | notIdentifier (field value : String)
deriving DecidableEq, Repr

def ConfigFault.message : ConfigFault → String
  | .emptyLibrary => "library must not be empty"
  | .notIdentifier field value =>
    field ++ " must be a JavaScript identifier, got " ++ Text.quoted value

namespace Config

open Json (Value ShapeFault)

/-- The library has a name, and the three names that go into code are identifiers. -/
def validate (config : Config) : Except ConfigFault Unit := do
  if config.library.isEmpty then throw .emptyLibrary
  for (field, value) in
      [("baseClass", config.baseClass), ("introspectionMethod", config.introspectionMethod),
        ("grammarProperty", config.grammarProperty)] do
    if !Text.isPlainName value then throw (.notIdentifier field value)

def readBool : Value → Except ShapeFault Bool
  | .bool b => .ok b
  | other => .error (.invalidType other.describe "a boolean")

def readString : Value → Except ShapeFault String
  | .str s => .ok s
  | other => .error (.invalidType other.describe "a string")

def policyOfName : String → Except ShapeFault DuplicatePolicy
  | "replace" => .ok .replace
  | "append" => .ok .append
  | "skip" => .ok .skip
  | other => .error (.unknownVariant other ["replace", "append", "skip"])

/-- A policy is its name, or an object with the name as its only key and no value. -/
def readPolicy : Value → Except ShapeFault DuplicatePolicy
  | .str name => policyOfName name
  | .obj [(name, value)] => do
    let policy ← policyOfName name
    match value with
    | .null => .ok policy
    | other => .error (.invalidType other.describe "unit")
  | .obj _ => .error (.invalidValue "map" "map with a single key")
  | other => .error (.invalidType other.describe "string or map")

/-- Sets the field a key names; other keys are ignored. -/
def setField (config : Config) (key : String) (value : Value) : Except ShapeFault Config :=
  match key with
  | "debug" => do .ok { config with debug := ← readBool value }
  | "library" => do .ok { config with library := ← readString value }
  | "baseClass" => do .ok { config with baseClass := ← readString value }
  | "introspectionMethod" => do .ok { config with introspectionMethod := ← readString value }
  | "grammarProperty" => do .ok { config with grammarProperty := ← readString value }
  | "duplicatePolicy" => do .ok { config with duplicatePolicy := ← readPolicy value }
  | _ => .ok config

/-- The fields in the order of the list form. -/
def fieldNames : List String :=
  ["debug", "library", "baseClass", "introspectionMethod", "grammarProperty", "duplicatePolicy"]

def setFields (config : Config) (fields : List (String × Value)) : Except ShapeFault Config :=
  fields.foldlM (fun config field => config.setField field.1 field.2) config

/-- The bare form: an object, or the list of field values. -/
def ofBare : Value → Except ShapeFault Config
  | .obj fields => setFields {} fields
  | .arr items => do
    let config ← setFields {} (fieldNames.zip items)
    if fieldNames.length < items.length then
      .error (.invalidLength items.length "fewer elements in array")
    else .ok config
  | other => .error (.invalidType other.describe "struct PrecompileConfig")

/-- The wrapped form: an object that holds the bare form under `options`; other keys are ignored. -/
def ofWrapped (fields : List (String × Value)) : Except ShapeFault Config :=
  fields.foldlM
    (fun config field => if field.1 == "options" then ofBare field.2 else .ok config) {}

/-- The wrapped form if there is a key `options`, else the bare form. -/
def ofValue (value : Value) : Except ShapeFault Config :=
  match value, value.get? "options" with
  | .obj fields, some _ => ofWrapped fields
  | _, _ => ofBare value

end Config

end GrammarEmbed
