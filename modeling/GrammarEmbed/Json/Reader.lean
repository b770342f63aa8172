import GrammarEmbed.Json.Error

/-!
Reading JSON text. The reader walks the characters with a cursor that knows its line and column;
nesting is bounded by `maxDepth`. Numbers are read to 64 bit integers while they fit and to
binary floating point otherwise.
-/

namespace GrammarEmbed.Json

/-- What is left of a text, and where that is. -/
structure Cursor where
  rest : List Char
  place : Position
deriving Repr, Inhabited

def maxDepth : Nat := 127

namespace Cursor

open Text (hexValue?)

def ofString (text : String) : Cursor :=
  ⟨text.toList, ⟨1, 0⟩⟩

def placeAfter (place : Position) : List Char → Nat → Position
  | [], _ => place
  | _, 0 => place
  | c :: rest, bytes + 1 =>
    if c == '\n' then placeAfter ⟨place.line + 1, 0⟩ rest bytes
    else if c.utf8Size ≤ bytes + 1 then
      placeAfter ⟨place.line, place.column + c.utf8Size⟩ rest (bytes + 1 - c.utf8Size)
    else ⟨place.line, place.column + bytes + 1⟩

def step (c : Cursor) : Cursor :=
  match c.rest with
  | [] => c
  | x :: rest =>
    ⟨rest, if x == '\n' then ⟨c.place.line + 1, 0⟩
      else ⟨c.place.line, c.place.column + x.utf8Size⟩⟩

/-- A fault at the character just read. -/
def fail (c : Cursor) (fault : SyntaxFault) : Except Error α :=
  .error (.text fault c.place)

/-- A fault at the character that comes next. -/
def failNext (c : Cursor) (fault : SyntaxFault) : Except Error α :=
  .error (.text fault (placeAfter c.place c.rest 1))

def isJsonBlank (c : Char) : Bool :=
  c == ' ' || c == '\n' || c == '\t' || c == '\r'

def skipWhile (p : Char → Bool) : List Char → Position → Cursor
  | [], place => ⟨[], place⟩
  | x :: rest, place =>
    if p x then
      skipWhile p rest (if x == '\n' then ⟨place.line + 1, 0⟩
        else ⟨place.line, place.column + x.utf8Size⟩)
    else ⟨x :: rest, place⟩

def skipBlanks (c : Cursor) : Cursor :=
  skipWhile isJsonBlank c.rest c.place

def keyword (c : Cursor) : List Char → Except Error Cursor
  | [] => .ok c
  | expected :: more =>
    match c.rest with
    | [] => c.fail .eofInValue
    | x :: _ => if x == expected then keyword c.step more else c.step.fail .expectedIdent

/-- The four hexadecimal digits of an escape. -/
def hexEscape (c : Cursor) : Except Error (Nat × Cursor) :=
  let bytes := (c.rest.take 4).foldl (fun n x => n + x.utf8Size) 0
  if bytes < 4 then
    .error (.text .eofInString (placeAfter c.place c.rest bytes))
  else
    let wrong : Except Error (Nat × Cursor) :=
      .error (.text .invalidEscape (placeAfter c.place c.rest 4))
    match c.rest with
    | x :: y :: z :: w :: _ =>
      match hexValue? x, hexValue? y, hexValue? z, hexValue? w with
      | some a, some b, some d, some e =>
        .ok (a * 4096 + b * 256 + d * 16 + e, c.step.step.step.step)
      | _, _, _, _ => wrong
    | _ => wrong

/-- The character of a `\u` escape; a leading surrogate needs its partner. -/
def unicodeEscape (c : Cursor) : Except Error (Char × Cursor) := do
  let (n, c) ← c.hexEscape
  if 0xDC00 ≤ n && n ≤ 0xDFFF then c.fail .loneSurrogate
  else if n < 0xD800 || 0xDBFF < n then .ok (Char.ofNat n, c)
  else
    match c.rest with
    | [] => c.fail .eofInString
    | '\\' :: [] => c.step.fail .eofInString
    | '\\' :: 'u' :: _ =>
      let (m, c) ← c.step.step.hexEscape
      if m < 0xDC00 || 0xDFFF < m then c.fail .loneSurrogate
      else .ok (Char.ofNat ((n - 0xD800) * 1024 + (m - 0xDC00) + 0x10000), c)
    | '\\' :: _ => c.step.step.fail .unfinishedSurrogate
    | _ => c.step.fail .unfinishedSurrogate

/-- The character of an escape, the backslash already passed. -/
def escape (c : Cursor) : Except Error (Char × Cursor) :=
  match c.rest with
  | [] => c.fail .eofInString
  | 'u' :: _ => c.step.unicodeEscape
  | '"' :: _ => .ok ('"', c.step)
  | '\\' :: _ => .ok ('\\', c.step)
  | '/' :: _ => .ok ('/', c.step)
  | 'b' :: _ => .ok ('\x08', c.step)
  | 'f' :: _ => .ok ('\x0c', c.step)
  | 'n' :: _ => .ok ('\n', c.step)
  | 'r' :: _ => .ok ('\r', c.step)
  | 't' :: _ => .ok ('\t', c.step)
  | _ :: _ => c.step.fail .invalidEscape

/-- The characters of a string up to its closing quote, in reverse. -/
def stringBody : Nat → Cursor → List Char → Except Error (List Char × Cursor)
  | 0, c, _ => c.fail .eofInString
  | fuel + 1, c, done =>
    match c.rest with
    | [] => c.fail .eofInString
    | '"' :: _ => .ok (done, c.step)
    | '\\' :: _ => do
      let (x, c) ← c.step.escape
      stringBody fuel c (x :: done)
    | x :: _ =>
      if x.toNat < 0x20 then c.step.fail .controlInString
      else stringBody fuel c.step (x :: done)

/-- A string, its opening quote already passed. -/
def string (c : Cursor) : Except Error (String × Cursor) := do
  let (reversed, c) ← stringBody (c.rest.length + 1) c []
  .ok (String.ofList reversed.reverse, c)

/-- The largest significand that is kept digit by digit. -/
def maxSignificand : Nat := 0xffffffffffffffff

/-- A number from its digits and its power of ten: the significand is rounded first, then scaled
by one power of ten after another of at most 308. -/
def scaleTen (c : Cursor) (x : Binary64) : Nat → Int → Except Error Binary64
  | 0, _ => .ok x
  | fuel + 1, power =>
    if power.natAbs ≤ 308 then
      match Binary64.tenPower power.natAbs with
      | none => c.fail .numberOutOfRange
      | some ten =>
        match if 0 ≤ power then x.mul ten else x.div ten with
        | some y => .ok y
        | none => c.fail .numberOutOfRange
    else if x.isZero then .ok x
    else if 0 ≤ power then c.fail .numberOutOfRange
    else
      match Binary64.tenPower 308 with
      | none => .ok x
      | some ten =>
        match x.div ten with
        | some y => scaleTen c y fuel (power + 308)
        | none => .ok x

/-- The floating point number `±significand · 10^power`. -/
def float (c : Cursor) (negative : Bool) (significand : Nat) (power : Int) :
    Except Error (Number × Cursor) := do
  match Binary64.ofRatio negative significand 1 with
  | none => c.fail .numberOutOfRange
  | some x =>
    let y ← c.scaleTen x (power.natAbs / 308 + 2) power
    .ok (.float y, c)

/-- Digits of an exponent, bounded by 31 bits. None when they exceed the bound. -/
def exponentDigits : List Char → Position → Nat → Option Nat × Cursor
  | [], place, n => (some n, ⟨[], place⟩)
  | x :: rest, place, n =>
    if x.isDigit then
      let next := n * 10 + (x.toNat - 48)
      let place : Position := ⟨place.line, place.column + 1⟩
      if 2147483647 < next then (none, ⟨rest, place⟩) else exponentDigits rest place next
    else (some n, ⟨x :: rest, place⟩)

/-- Keeps a power of ten within 32 bits. -/
def clampPower (n : Int) : Int :=
  max (-2147483648) (min 2147483647 n)

/-- The exponent of a number, its letter next. -/
def exponent (c : Cursor) (negative : Bool) (significand : Nat) (power : Int) :
    Except Error (Number × Cursor) :=
  let c := c.step
  let (negativePower, c) := match c.rest with
    | '+' :: _ => (false, c.step)
    | '-' :: _ => (true, c.step)
    | _ => (false, c)
  match c.rest with
  | [] => c.fail .eofInValue
  | x :: _ =>
    if !x.isDigit then c.step.fail .invalidNumber
    else
      match exponentDigits c.step.rest c.step.place (x.toNat - 48) with
      | (some n, c) =>
        c.float negative significand
          (clampPower (if negativePower then power - (n : Int) else power + (n : Int)))
      | (none, c) =>
        if significand != 0 && !negativePower then c.fail .numberOutOfRange
        else
          let c := skipWhile Char.isDigit c.rest c.place
          .ok (.float ⟨negative, 0, 0⟩, c)

/-- Takes digits into a significand while it stays in range; gives the count taken. -/
def takeDigits : List Char → Position → Nat → Nat → Nat × Nat × Cursor
  | [], place, significand, count => (significand, count, ⟨[], place⟩)
  | x :: rest, place, significand, count =>
    if x.isDigit then
      let next := significand * 10 + (x.toNat - 48)
      if maxSignificand < next then (significand, count, ⟨x :: rest, place⟩)
      else takeDigits rest ⟨place.line, place.column + 1⟩ next (count + 1)
    else (significand, count, ⟨x :: rest, place⟩)

/-- The digits after a point, the point next. -/
def fraction (c : Cursor) (negative : Bool) (significand : Nat) (power : Int) :
    Except Error (Number × Cursor) :=
  let c := c.step
  let (significand, count, c) := takeDigits c.rest c.place significand 0
  let more := match c.rest with
    | x :: _ => x.isDigit
    | [] => false
  if count == 0 && !more then
    match c.rest with
    | [] => c.failNext .eofInValue
    | _ => c.failNext .invalidNumber
  else
    let c := skipWhile Char.isDigit c.rest c.place
    let power := power - (count : Int)
    match c.rest with
    | 'e' :: _ => c.exponent negative significand power
    | 'E' :: _ => c.exponent negative significand power
    | _ => c.float negative significand power

/-- Digits of an integer part that no longer fit; each only raises the power of ten. -/
def longInteger (c : Cursor) (negative : Bool) (significand : Nat) :
    Except Error (Number × Cursor) :=
  let digits := (c.rest.takeWhile Char.isDigit).length
  let c := skipWhile Char.isDigit c.rest c.place
  match c.rest with
  | '.' :: _ => c.fraction negative significand digits
  | 'e' :: _ => c.exponent negative significand digits
  | 'E' :: _ => c.exponent negative significand digits
  | _ => c.float negative significand digits

/-- What follows an integer part that fits. -/
def numberTail (c : Cursor) (negative : Bool) (significand : Nat) :
    Except Error (Number × Cursor) :=
  match c.rest with
  | '.' :: _ => c.fraction negative significand 0
  | 'e' :: _ => c.exponent negative significand 0
  | 'E' :: _ => c.exponent negative significand 0
  | _ =>
    if !negative then .ok (.int significand, c)
    else if significand == 0 || 0x8000000000000000 < significand then c.float true significand 0
    else .ok (.int (-(significand : Int)), c)

/-- A number, its sign already passed. -/
def number (c : Cursor) (negative : Bool) : Except Error (Number × Cursor) :=
  match c.rest with
  | [] => c.fail .eofInValue
  | x :: _ =>
    if x == '0' then
      match c.step.rest with
      | y :: _ =>
        if y.isDigit then c.step.failNext .invalidNumber else c.step.numberTail negative 0
      | [] => c.step.numberTail negative 0
    else if x.isDigit then
      let (significand, _, c) := takeDigits c.rest c.place 0 0
      match c.rest with
      | y :: _ =>
        if y.isDigit then c.longInteger negative significand
        else c.numberTail negative significand
      | [] => c.numberTail negative significand
    else c.step.fail .invalidNumber

/-- Whether an element follows in a list, and the cursor at it. -/
def nextItem (c : Cursor) (first : Bool) : Except Error (Bool × Cursor) :=
  let c := c.skipBlanks
  match c.rest with
  | [] => c.failNext .eofInList
  | ']' :: _ => .ok (false, c)
  | x :: _ =>
    if first then .ok (true, c)
    else if x == ',' then
      let c := c.step.skipBlanks
      match c.rest with
      | [] => c.failNext .eofInValue
      | ']' :: _ => c.failNext .trailingComma
      | _ => .ok (true, c)
    else c.failNext .expectedListEnd

/-- The key of the next field of an object, if one follows. -/
def nextKey (c : Cursor) (first : Bool) : Except Error (Option String × Cursor) :=
  let c := c.skipBlanks
  match c.rest with
  | [] => c.failNext .eofInObject
  | '\x7d' :: _ => .ok (none, c)
  | x :: _ =>
    if first then
      if x == '"' then do
        let (key, c) ← c.step.string
        .ok (some key, c)
      else c.failNext .keyNotString
    else if x == ',' then
      let c := c.step.skipBlanks
      match c.rest with
      | [] => c.failNext .eofInValue
      | '"' :: _ => do
        let (key, c) ← c.step.string
        .ok (some key, c)
      | '\x7d' :: _ => c.failNext .trailingComma
      | _ => c.failNext .keyNotString
    else c.failNext .expectedObjectEnd

def colon (c : Cursor) : Except Error Cursor :=
  let c := c.skipBlanks
  match c.rest with
  | [] => c.failNext .eofInObject
  | ':' :: _ => .ok c.step
  | _ => c.failNext .expectedColon

/-- The items of a list up to its bracket, which stays next. -/
def items (read : Cursor → Except Error (Value × Cursor)) :
    Nat → Bool → Cursor → List Value → Except Error (List Value × Cursor)
  | 0, _, c, _ => c.failNext .eofInList
  | fuel + 1, first, c, done => do
    let (more, c) ← c.nextItem first
    if more then
      let (item, c) ← read c
      items read fuel false c (item :: done)
    else .ok (done.reverse, c)

/-- The fields of an object up to its brace, which stays next. -/
def fields (read : Cursor → Except Error (Value × Cursor)) :
    Nat → Bool → Cursor → List (String × Value) → Except Error (List (String × Value) × Cursor)
  | 0, _, c, _ => c.failNext .eofInObject
  | fuel + 1, first, c, done => do
    let (key?, c) ← c.nextKey first
    match key? with
    | some key =>
      let c ← c.colon
      let (value, c) ← read c
      fields read fuel false c ((key, value) :: done)
    | none => .ok (done.reverse, c)

/-- A value, with `depth` levels of nesting left. -/
def value : Nat → Cursor → Except Error (Value × Cursor)
  | depth, c =>
    let c := c.skipBlanks
    match c.rest with
    | [] => c.failNext .eofInValue
    | 'n' :: _ => do .ok (.null, ← c.step.keyword ['u', 'l', 'l'])
    | 't' :: _ => do .ok (.bool true, ← c.step.keyword ['r', 'u', 'e'])
    | 'f' :: _ => do .ok (.bool false, ← c.step.keyword ['a', 'l', 's', 'e'])
    | '"' :: _ => do
      let (s, c) ← c.step.string
      .ok (.str s, c)
    | '-' :: _ => do
      let (n, c) ← c.step.number true
      .ok (.num n, c)
    | '[' :: _ =>
      match depth with
      | 0 => c.failNext .tooDeep
      | depth + 1 => do
        let (list, c) ← items (value depth) (c.rest.length + 1) true c.step []
        .ok (.arr list, c.step)
    | '\x7b' :: _ =>
      match depth with
      | 0 => c.failNext .tooDeep
      | depth + 1 => do
        let (list, c) ← fields (value depth) (c.rest.length + 1) true c.step []
        .ok (.obj list, c.step)
    | x :: _ =>
      if x.isDigit then do
        let (n, c) ← c.number false
        .ok (.num n, c)
      else c.failNext .expectedValue

def finish (c : Cursor) : Except Error Unit :=
  let c := c.skipBlanks
  match c.rest with
  | [] => .ok ()
  | _ => c.failNext .trailingCharacters

end Cursor

/-- The value a text spells, fields in the order of the text. -/
def parse (text : String) : Except Error Value := do
  let (value, c) ← (Cursor.ofString text).value maxDepth
  c.finish
  .ok value

end GrammarEmbed.Json
