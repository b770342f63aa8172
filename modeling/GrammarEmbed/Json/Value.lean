import GrammarEmbed.Json.Binary64

/-!
JSON values. The fields of an object are listed in the order of the text they come from; the
canonical form lists them by key, and of a repeated key keeps the last value.
-/

namespace GrammarEmbed.Json

inductive Number where
  | int (n : Int)
  | float (x : Binary64)
deriving DecidableEq, Repr, Inhabited

inductive Value where
  | null
  | bool (b : Bool)
  | num (n : Number)
  | str (s : String)
  | arr (items : List Value)
  | obj (fields : List (String × Value))
deriving Repr, Inhabited

namespace Value

/-- Puts a field in its place by key, in exchange for one with the same key. -/
def insertField (key : String) (value : Value) : List (String × Value) → List (String × Value)
  | [] => [(key, value)]
  | (k, v) :: rest =>
    if key < k then (key, value) :: (k, v) :: rest
    else if key == k then (key, value) :: rest
    else (k, v) :: insertField key value rest

/-- Fields in increasing order of their keys; of a repeated key the last value. -/
def sortFields (fields : List (String × Value)) : List (String × Value) :=
  fields.foldl (fun sorted field => insertField field.1 field.2 sorted) []

mutual

/-- The value with the fields of every object in increasing order of their keys. -/
def canonical : Value → Value
  | .arr items => .arr (canonicalItems items)
  | .obj fields => .obj (sortFields (canonicalFields fields))
  | value => value

def canonicalItems : List Value → List Value
  | [] => []
  | item :: rest => item.canonical :: canonicalItems rest

def canonicalFields : List (String × Value) → List (String × Value)
  | [] => []
  | (key, value) :: rest => (key, value.canonical) :: canonicalFields rest

end

/-- The value of an object's first field with that key. -/
def get? (key : String) : Value → Option Value
  | .obj fields => fields.lookup key
  | _ => none

end Value

end GrammarEmbed.Json
