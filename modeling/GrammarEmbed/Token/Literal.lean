import GrammarEmbed.Text.Character
import GrammarEmbed.Token.Escape

namespace GrammarEmbed.Token

open Text (isNameStart isNamePart isLineEnd)

/-- What a reader found: a token, the characters it took, those it left, and faults that did not
stop it. -/
structure Found where
  token : Token
  used : List Char
  rest : List Char
  notices : List Notice := []
deriving Repr

/-- A fault that stops a reader, and where it ends. -/
structure Stop where
  error : SourceError
  stop : Nat
deriving Repr

def Stop.token (stop : Stop) : Token :=
  .bad stop.error stop.stop

/-- The characters of a string literal behind its opening quote. -/
structure StringBody where
  value : List Char
  used : List Char
  rest : List Char
  /-- Whether the closing quote was found; it is the last of the characters used. -/
  closed : Bool
  notices : List Notice
  error : Option Stop
deriving Repr

def StringBody.push (body : StringBody) (value : List Char) (used : Char) : StringBody :=
  { body with value := value ++ body.value, used := used :: body.used }

/-- The end of a faulty escape whose backslash is at `pos`; one that is cut off has no length. -/
def Escape.stop (escape : Escape) (pos : Nat) : Nat :=
  if escape.used.isEmpty then pos else pos + 1 + byteCount escape.used

/-- Reads a string literal behind its opening quote. `skip` characters belong to an escape whose
value is already known. -/
def stringBody (quote : Char) : (skip pos : Nat) → List Char → StringBody
  | _, _, [] => ⟨[], [], [], false, [], none⟩
  | skip + 1, pos, c :: rest => (stringBody quote skip (pos + c.utf8Size) rest).push [] c
  | 0, pos, c :: rest =>
    if c == quote then ⟨[], [c], rest, true, [], none⟩
    else if c == '\\' then
      let found := escape rest
      match found.value with
      | .ok value =>
        let body := (stringBody quote found.used.length (pos + 1) rest).push value c
        let legacy := if found.isLegacy then [⟨.strict, ⟨pos, .legacyOctal⟩⟩] else []
        { body with notices := found.notices pos ++ legacy ++ body.notices }
      | .error fault =>
        ⟨[], c :: found.used, rest.drop found.used.length, false, found.notices pos,
          some ⟨⟨pos, fault.fault⟩, found.stop pos⟩⟩
    else if c == '\n' || c == '\r' then ⟨[], [], c :: rest, false, [], none⟩
    else (stringBody quote 0 (pos + c.utf8Size) rest).push [c] c

/-- Reads a string literal. One without an end is a fault, and still a token. -/
def stringLiteral (pos : Nat) (quote : Char) (rest : List Char) : Found :=
  let body := stringBody quote 0 (pos + 1) rest
  let used := quote :: body.used
  match body.error with
  | some stop => ⟨stop.token, used, body.rest, body.notices⟩
  | none =>
    let notices :=
      if body.closed then body.notices
      else body.notices ++ [⟨.always, ⟨pos, .unterminatedString⟩⟩]
    ⟨.str (String.ofList body.value) (String.ofList used), used, body.rest, notices⟩

/-- A name: the characters it stands for and those it was written with. -/
structure NameBody where
  value : List Char
  used : List Char
  rest : List Char
  escaped : Bool
  notices : List Notice
  error : Option Stop
deriving Repr

def NameBody.push (body : NameBody) (value : List Char) (used : Char) : NameBody :=
  { body with value := value ++ body.value, used := used :: body.used }

/-- The part of a name from a backslash on that spells no character. -/
def NameBody.failed (used rest : List Char) (notices : List Notice) (stop : Stop) : NameBody :=
  ⟨[], used, rest, true, notices, some stop⟩

/-- Reads the characters of a name. `skip` characters belong to an escape whose value is already
known. -/
def nameBody : (skip pos : Nat) → (isFirst : Bool) → List Char → NameBody
  | _, _, _, [] => ⟨[], [], [], false, [], none⟩
  | skip + 1, pos, _, c :: rest => (nameBody skip (pos + c.utf8Size) false rest).push [] c
  | 0, pos, isFirst, c :: rest =>
    if isNamePart c then (nameBody 0 (pos + c.utf8Size) false rest).push [c] c
    else if c == '\\' then
      match rest with
      | 'u' :: digits =>
        let found := unicodeEscape digits
        match found.value with
        | .ok value =>
          let body := (nameBody found.used.length (pos + 1) false rest).push value c
          let valid := value.head?.any fun v => if isFirst then isNameStart v else isNamePart v
          let invalid :=
            if valid then [] else [⟨.always, ⟨pos, .invalidIdentifierCharacter⟩⟩]
          { body with escaped := true, notices := found.notices pos ++ invalid ++ body.notices }
        | .error fault =>
          .failed (c :: found.used) (rest.drop found.used.length) (found.notices pos)
            ⟨⟨pos + fault.offset, fault.fault⟩, found.stop pos⟩
      | _ => .failed [c] rest [] ⟨⟨pos, .expectedUnicodeEscape⟩, pos⟩
    else ⟨[], [], c :: rest, false, [], none⟩

def nameToken (pos : Nat) (text : List Char) : Found :=
  let body := nameBody 0 pos true text
  let value := String.ofList body.value
  match body.error with
  | some stop => ⟨stop.token, body.used, body.rest, body.notices⟩
  | none =>
    let token := if text.head? == some '\\' then .name value else .word value body.escaped
    ⟨token, body.used, body.rest, body.notices⟩

/-- Text of a template up to a substitution or the closing backtick. -/
structure TemplateBody where
  used : List Char
  rest : List Char
  notices : List Notice
  /-- The last escape that stands for nothing, which only a tagged template may have. -/
  error : Option SourceError
deriving Repr

def TemplateBody.push (body : TemplateBody) (c : Char) : TemplateBody :=
  { body with used := c :: body.used }

/-- Reads a piece of a template; nothing if the template has no end. -/
def templateBody : (skip pos : Nat) → List Char → Option TemplateBody
  | _, _, [] => none
  | skip + 1, pos, c :: rest => (·.push c) <$> templateBody skip (pos + c.utf8Size) rest
  | 0, pos, c :: rest =>
    if c == '`' || (c == '$' && rest.head? == some '\x7b') then some ⟨[], c :: rest, [], none⟩
    else if c == '\\' then do
      let found := escape rest
      let (length, error) : Nat × Option Fault := match found.value with
        | .ok _ => if found.isLegacy then (1, some .legacyOctal) else (found.used.length, none)
        | .error fault => (found.used.length, some fault.fault)
      let body ← templateBody length (pos + 1) rest
      return { body.push c with
        notices := found.notices pos ++ body.notices
        error := body.error <|> error.map fun fault => ⟨pos, fault⟩ }
    else (·.push c) <$> templateBody 0 (pos + c.utf8Size) rest

/-- Reads the pattern of a regular expression up to, and without, its closing slash. -/
def regexBody : (escaped inClass : Bool) → List Char → Option (List Char × List Char)
  | _, _, [] => none
  | escaped, inClass, c :: rest =>
    if isLineEnd c then none
    else if !escaped && !inClass && c == '/' then some ([], rest)
    else
      let inClass' :=
        if escaped then inClass else if c == '[' then true else if c == ']' then false else inClass
      (regexBody (!escaped && c == '\\') inClass' rest).map fun (used, left) => (c :: used, left)

end GrammarEmbed.Token
