/-!
Tables that remember the order in which their keys came: inserting a key again keeps its place
and takes the new value.
-/

namespace GrammarEmbed

structure Table (α : Type) where
  entries : List (String × α) := []
deriving Repr, Inhabited

namespace Table

variable {α : Type}

/-- Exchanges the value of a key that is present, or adds the pair at the end. -/
def insertEntry (key : String) (value : α) : List (String × α) → List (String × α)
  | [] => [(key, value)]
  | (k, v) :: rest => if k == key then (k, value) :: rest else (k, v) :: insertEntry key value rest

def insert (table : Table α) (key : String) (value : α) : Table α :=
  ⟨insertEntry key value table.entries⟩

def ofList (pairs : List (String × α)) : Table α :=
  pairs.foldl (fun table pair => table.insert pair.1 pair.2) {}

def get? (table : Table α) (key : String) : Option α :=
  table.entries.lookup key

def size (table : Table α) : Nat :=
  table.entries.length

def isEmpty (table : Table α) : Bool :=
  table.entries.isEmpty

def keys (table : Table α) : List String :=
  table.entries.map Prod.fst

end Table

end GrammarEmbed
