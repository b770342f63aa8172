/-!
Reading bytes as UTF-8. Every byte belongs to a character or to a malformed piece, and a malformed
piece is as long as the start of a character that it could have been.
-/

namespace GrammarEmbed.Text.Utf8

def isTail (b : UInt8) : Bool :=
  0x80 ≤ b && b ≤ 0xbf

/-- Whether a byte may come second after the first byte of a three byte character. -/
def isSecondOfThree (first second : UInt8) : Bool :=
  if first == 0xe0 then 0xa0 ≤ second && second ≤ 0xbf
  else if first == 0xed then 0x80 ≤ second && second ≤ 0x9f
  else isTail second

/-- Whether a byte may come second after the first byte of a four byte character. -/
def isSecondOfFour (first second : UInt8) : Bool :=
  if first == 0xf0 then 0x90 ≤ second && second ≤ 0xbf
  else if first == 0xf4 then 0x80 ≤ second && second ≤ 0x8f
  else isTail second

/-- The low six bits of a later byte. -/
def tailBits (b : UInt8) : Nat :=
  b.toNat % 64

/-- The characters of a byte sequence; a malformed piece counts as no character. -/
def pieces : List UInt8 → List (Option Char)
  | [] => []
  | a :: rest =>
    if a < 0x80 then some (Char.ofNat a.toNat) :: pieces rest
    else if 0xc2 ≤ a && a ≤ 0xdf then
      match rest with
      | [] => [none]
      | b :: rest' =>
        if isTail b then
          some (Char.ofNat (a.toNat % 32 * 64 + tailBits b)) :: pieces rest'
        else none :: pieces (b :: rest')
    else if 0xe0 ≤ a && a ≤ 0xef then
      match rest with
      | [] => [none]
      | [b] => if isSecondOfThree a b then [none] else none :: pieces [b]
      | b :: c :: rest' =>
        if isSecondOfThree a b then
          if isTail c then
            some (Char.ofNat (a.toNat % 16 * 4096 + tailBits b * 64 + tailBits c)) :: pieces rest'
          else none :: pieces (c :: rest')
        else none :: pieces (b :: c :: rest')
    else if 0xf0 ≤ a && a ≤ 0xf4 then
      match rest with
      | [] => [none]
      | [b] => if isSecondOfFour a b then [none] else none :: pieces [b]
      | [b, c] =>
        if isSecondOfFour a b then
          if isTail c then [none] else none :: pieces [c]
        else none :: pieces [b, c]
      | b :: c :: d :: rest' =>
        if isSecondOfFour a b then
          if isTail c then
            if isTail d then
              some (Char.ofNat (a.toNat % 8 * 262144 + tailBits b * 4096 + tailBits c * 64 +
                tailBits d)) :: pieces rest'
            else none :: pieces (d :: rest')
          else none :: pieces (c :: d :: rest')
        else none :: pieces (b :: c :: d :: rest')
    else none :: pieces rest
termination_by bytes => bytes.length

def decode? (bytes : List UInt8) : Option String :=
  ((pieces bytes).mapM id).map String.ofList

/-- The text of any bytes, U+FFFD in the place of every malformed piece. -/
def decodeLossy (bytes : List UInt8) : String :=
  String.ofList ((pieces bytes).map fun piece => piece.getD '\ufffd')

end GrammarEmbed.Text.Utf8
