import GrammarEmbed.Text.Ranges
import GrammarEmbed.Text.PrintTable

namespace GrammarEmbed.Text

def hexValue? (c : Char) : Option Nat :=
  if '0' ≤ c ∧ c ≤ '9' then some (c.toNat - 48)
  else if 'a' ≤ c ∧ c ≤ 'f' then some (c.toNat - 87)
  else if 'A' ≤ c ∧ c ≤ 'F' then some (c.toNat - 55)
  else none

/-- Lower case hexadecimal digits without leading zeros. -/
def hexDigits (n : Nat) : String :=
  String.ofList (Nat.toDigits 16 n)

/-- A character of a quoted text that would not show: it extends its neighbour, or it is a
control, separator or unassigned character. -/
def isHidden (c : Char) : Bool :=
  c.toNat < 0x20 || c.toNat == 0x7f ||
    (0x80 ≤ c.toNat &&
      (inRanges graphemeExtendRanges c.toNat || inRanges unprintableRanges c.toNat))

/-- Spelling of one character between double quotes. -/
def quotedChar (c : Char) : String :=
  if c == '\x00' then "\\0"
  else if c == '\t' then "\\t"
  else if c == '\r' then "\\r"
  else if c == '\n' then "\\n"
  else if c == '"' then "\\\""
  else if c == '\\' then "\\\\"
  else if isHidden c then "\\u\x7b" ++ hexDigits c.toNat ++ "\x7d"
  else c.toString

/-- A character in single quotes, between which a double quote needs no escape. -/
def quotedSingle (c : Char) : String :=
  if c == '\'' then "'\\''" else if c == '"' then "'\"'" else "'" ++ quotedChar c ++ "'"

def quoted (s : String) : String :=
  "\"" ++ String.join (s.toList.map quotedChar) ++ "\""

end GrammarEmbed.Text
