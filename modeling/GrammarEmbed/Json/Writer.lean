import GrammarEmbed.Json.Value

namespace GrammarEmbed.Json

def hexQuad (n : Nat) : List Char :=
  [Nat.digitChar (n / 4096 % 16), Nat.digitChar (n / 256 % 16), Nat.digitChar (n / 16 % 16),
    Nat.digitChar (n % 16)]

/-- Spelling of one character of a string. -/
def escapeChar (c : Char) : List Char :=
  if c == '"' then ['\\', '"']
  else if c == '\\' then ['\\', '\\']
  else if c == '\x08' then ['\\', 'b']
  else if c == '\x0c' then ['\\', 'f']
  else if c == '\n' then ['\\', 'n']
  else if c == '\r' then ['\\', 'r']
  else if c == '\t' then ['\\', 't']
  else if c.toNat < 0x20 then '\\' :: 'u' :: hexQuad c.toNat
  else [c]

def writeString (s : String) : List Char :=
  '"' :: (s.toList.flatMap escapeChar ++ ['"'])

def writeInt (n : Int) : List Char :=
  if n < 0 then '-' :: Nat.toDigits 10 n.natAbs else Nat.toDigits 10 n.natAbs

def Number.write : Number → List Char
  | .int n => writeInt n
  | .float x => x.render.toList

mutual

def Value.write : Value → List Char
  | .null => ['n', 'u', 'l', 'l']
  | .bool true => ['t', 'r', 'u', 'e']
  | .bool false => ['f', 'a', 'l', 's', 'e']
  | .num n => n.write
  | .str s => writeString s
  | .arr [] => ['[', ']']
  | .arr (item :: rest) => '[' :: (item.write ++ Value.writeItems rest)
  | .obj [] => ['\x7b', '\x7d']
  | .obj ((key, value) :: rest) =>
    '\x7b' :: (writeString key ++ ':' :: (value.write ++ Value.writeFields rest))

/-- The items after the first, and the closing bracket. -/
def Value.writeItems : List Value → List Char
  | [] => [']']
  | item :: rest => ',' :: (item.write ++ Value.writeItems rest)

/-- The fields after the first, and the closing brace. -/
def Value.writeFields : List (String × Value) → List Char
  | [] => ['\x7d']
  | (key, value) :: rest =>
    ',' :: (writeString key ++ ':' :: (value.write ++ Value.writeFields rest))

end

def Value.compact (value : Value) : String :=
  String.ofList value.write

end GrammarEmbed.Json
