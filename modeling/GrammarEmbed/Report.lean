import GrammarEmbed.Extraction
import GrammarEmbed.Json.Reader

/-!
The document in which a host that ran a clone tells how it went:

* `{"status":"ok","parsers":[{"name":"P","grammar":[…]}]}`, where a class may have an `error` in
  the place of its grammar: `{"phase":"construct","message":"…"}`, or the phase `introspect`;
* `{"status":"missing"}`: the clone published no export map;
* `{"status":"error","message":"…"}`: the clone could not be loaded.

The status is read as the text is walked, and everything else is kept until the status is known.
So faults of the status have a place in the text and faults of the rest have none. A record may
also be written as a list of its fields, the status or phase first.
-/

namespace GrammarEmbed

open Json (Value Cursor ShapeFault)

inductive Report where
  | ok (classes : List (String × ParserClass))
  | missing
  | error (message : String)
deriving Repr

namespace Report

inductive Status where
  | ok
  | missing
  | error
deriving DecidableEq, Repr

def statusNames : List String := ["ok", "missing", "error"]

def Status.ofName? : String → Option Status
  | "ok" => some .ok
  | "missing" => some .missing
  | "error" => some .error
  | _ => none

inductive Phase where
  | construct
  | introspect
deriving DecidableEq, Repr

def phaseNames : List String := ["construct", "introspect"]

def text : Value → Except ShapeFault String
  | .str s => .ok s
  | value => .error (.invalidType value.describe "a string")

/-- The value of a field that is given at most once. -/
def onlyField {α : Type} (name : String) (read : Value → Except ShapeFault α)
    (fields : List (String × Value)) : Except ShapeFault (Option α) :=
  fields.foldlM (fun found field => do
    if field.1 != name then return found
    if found.isSome then throw (.duplicateField name)
    return some (← read field.2)) none

/-- A record of one field, as an object or as a list of one item. -/
def oneField {α : Type} (name label : String) (read : Value → Except ShapeFault α) :
    Value → Except ShapeFault α
  | .obj fields => do
    match ← onlyField name read fields with
    | some value => return value
    | none => throw (.missingField name)
  | .arr [] => .error (.invalidLength 0 (label ++ " with 1 element"))
  | .arr [item] => read item
  | .arr (item :: rest) => do
    let _ ← read item
    throw (.invalidLength (rest.length + 1) "1 element in sequence")
  | value => .error (.invalidType value.describe label)

/-- Takes the tag out of a list of fields; what is left keeps its order. -/
def takeTag {τ : Type} (tag : String) (read : Value → Except ShapeFault τ)
    (fields : List (String × Value)) : Except ShapeFault (Option τ × List (String × Value)) := do
  let (found, rest) ← fields.foldlM (fun (found, rest) field => do
    if field.1 != tag then return (found, field :: rest)
    if found.isSome then throw (.duplicateField tag)
    return (some (← read field.2), rest)) (none, [])
  return (found, rest.reverse)

/-- Divides a value into its tag and the rest of it. -/
def tagged {τ : Type} (tag label : String) (read : Value → Except ShapeFault τ) :
    Value → Except ShapeFault (τ × Value)
  | .obj fields => do
    match ← takeTag tag read fields with
    | (some value, rest) => return (value, .obj rest)
    | (none, _) => throw (.missingField tag)
  | .arr [] => .error (.missingField tag)
  | .arr (first :: rest) => do return (← read first, .arr rest)
  | value => .error (.invalidType value.describe ("internally tagged enum " ++ label))

/-- A phase by its name or by its number. -/
def phase : Value → Except ShapeFault Phase
  | .str "construct" => .ok .construct
  | .str "introspect" => .ok .introspect
  | .str name => .error (.unknownVariant name phaseNames)
  | .num (.int n) =>
    if n == 0 then .ok .construct
    else if n == 1 then .ok .introspect
    else if 0 ≤ n then
      .error (.invalidValue (Json.Number.int n).describe "variant index 0 <= i < 2")
    else .error (.invalidType (Json.Number.int n).describe "variant identifier")
  | value => .error (.invalidType value.describe "variant identifier")

def failure (value : Value) : Except ShapeFault ParserClass := do
  match ← tagged "phase" "ClassFailure" phase value with
  | (.construct, rest) =>
    return .constructFails (← oneField "message" "struct variant ClassFailure::Construct" text rest)
  | (.introspect, rest) =>
    return .introspectFails
      (← oneField "message" "struct variant ClassFailure::Introspect" text rest)

def failure? : Value → Except ShapeFault (Option ParserClass)
  | .null => .ok none
  | value => do return some (← failure value)

/-- Fields of a class report met so far. -/
structure ClassFields where
  name : Option String := none
  grammar : Option Value := none
  failure : Option (Option ParserClass) := none

/-- Takes in one field; fields of other names are passed over. -/
def ClassFields.add (seen : ClassFields) (field : String × Value) :
    Except ShapeFault ClassFields := do
  match field.1 with
  | "name" =>
    if seen.name.isSome then throw (.duplicateField "name")
    return { seen with name := some (← text field.2) }
  | "grammar" =>
    if seen.grammar.isSome then throw (.duplicateField "grammar")
    return { seen with grammar := some field.2.canonical }
  | "error" =>
    if seen.failure.isSome then throw (.duplicateField "error")
    return { seen with failure := some (← failure? field.2) }
  | _ => return seen

/-- What a class does: a failure goes before a grammar, and a class without either has the grammar
null. -/
def ClassFields.fate (seen : ClassFields) : ParserClass :=
  match seen.failure.join with
  | some failing => failing
  | none => .grammar (seen.grammar.getD .null)

def classReport : Value → Except ShapeFault (String × ParserClass)
  | .obj fields => do
    let seen ← fields.foldlM ClassFields.add {}
    match seen.name with
    | some name => return (name, seen.fate)
    | none => throw (.missingField "name")
  | .arr [] => .error (.invalidLength 0 "struct ClassReport with 3 elements")
  | .arr items => do
    let seen ← (["name", "grammar", "error"].zip items).foldlM ClassFields.add {}
    if 3 < items.length then throw (.invalidLength items.length "3 elements in sequence")
    match seen.name with
    | some name => return (name, seen.fate)
    | none => throw (.missingField "name")
  | value => .error (.invalidType value.describe "struct ClassReport")

def classes : Value → Except ShapeFault (List (String × ParserClass))
  | .arr items => items.mapM classReport
  | value => .error (.invalidType value.describe "a sequence")

def ofParts : Status → Value → Except ShapeFault Report
  | .ok, rest => do
    return .ok (← oneField "parsers" "struct variant DriverReport::Ok" classes rest)
  | .missing, .arr (_ :: items) =>
    .error (.invalidLength (items.length + 1) "0 elements in sequence")
  | .missing, _ => .ok .missing
  | .error, rest => do
    return .error (← oneField "message" "struct variant DriverReport::Error" text rest)

def failShape {α : Type} (c : Cursor) (fault : ShapeFault) : Except Json.Error α :=
  .error (.shape fault (some c.place))

/-- The status, which has to be one of the names. -/
def readStatus (c : Cursor) : Except Json.Error (Status × Cursor) :=
  let c := c.skipBlanks
  match c.rest with
  | '"' :: _ => do
    let (name, c) ← c.step.string
    match Status.ofName? name with
    | some status => return (status, c)
    | none => failShape c (.unknownVariant name statusNames)
  | '[' :: _ => failShape c (.invalidType (Value.arr []).describe "variant identifier")
  | '\x7b' :: _ => failShape c (.invalidType (Value.obj []).describe "variant identifier")
  | _ => do
    let (value, c) ← c.value 0
    failShape c (.invalidType value.describe "variant identifier")

/-- The cursor behind a brace if one comes next. -/
def passBrace (c : Cursor) : Cursor :=
  let c := c.skipBlanks
  match c.rest with
  | '\x7d' :: _ => c.step
  | _ => c

def readFields : Nat → Bool → Cursor → Option Status → List (String × Value) →
    Except Json.Error (Status × Value × Cursor)
  | 0, _, c, _, _ => c.failNext .eofInObject
  | fuel + 1, first, c, status?, rest => do
    let (key?, c) ← c.nextKey first
    match key?, status? with
    | none, some status => return (status, .obj rest.reverse, c.step)
    | none, none => failShape c.step (.missingField "status")
    | some "status", some _ => failShape (passBrace c) (.duplicateField "status")
    | some "status", none =>
      let (status, c) ← readStatus (← c.colon)
      readFields fuel false c (some status) rest
    | some key, status? =>
      let (value, c) ← (← c.colon).value (Json.maxDepth - 1)
      readFields fuel false c status? ((key, value) :: rest)

/-- The status and the rest of a record. -/
def readParts (c : Cursor) : Except Json.Error (Status × Value × Cursor) := do
  let c := c.skipBlanks
  match c.rest with
  | '\x7b' :: _ => readFields (c.rest.length + 1) true c.step none []
  | '[' :: _ =>
    let (more, c) ← c.step.nextItem true
    if !more then failShape c.step (.missingField "status")
    else
      let (status, c) ← readStatus c
      let (items, c) ←
        Cursor.items (Cursor.value (Json.maxDepth - 1)) (c.rest.length + 1) false c []
      return (status, .arr items, c.step)
  | _ =>
    let (value, c) ← c.value 0
    failShape c (.invalidType value.describe "internally tagged enum DriverReport")

def parse (document : String) : Except Json.Error Report := do
  let (status, rest, c) ← readParts (Cursor.ofString document)
  match ofParts status rest with
  | .error fault => throw (.shape fault none)
  | .ok report =>
    c.finish
    return report

/-- The classes a report tells of, or that there are none, or that loading failed. -/
def exports (filename : String) : Report → Except Error (Option ParserExports)
  | .ok classes => .ok (some (Table.ofList classes))
  | .missing => .ok none
  | .error message => .error (.load filename message)

end Report

end GrammarEmbed
