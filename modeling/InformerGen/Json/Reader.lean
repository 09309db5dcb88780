import InformerGen.Json
import InformerGen.Text.Hex

/-! Reading JSON texts. -/
namespace InformerGen.Json.Reader

def isSpace (c : Char) : Bool := c == ' ' || c == '\n' || c == '\r' || c == '\t'

def skipSpace (text : List Char) : List Char := text.dropWhile isSpace

def escaped? : Char → Option Char
  | '"' => some '"'
  | '\\' => some '\\'
  | '/' => some '/'
  | 'b' => some '\x08'
  | 'f' => some '\x0C'
  | 'n' => some '\n'
  | 'r' => some '\r'
  | 't' => some '\t'
  | _ => none

/-- What a string says, as far as it has been read: its characters, or nothing once an escape named
half of a surrogate pair. -/
abbrev Spoken := Option (List Char)

def Spoken.say (spoken : Spoken) (c : Char) : Spoken := spoken.map (c::·)

def isHighSurrogate (unit : Nat) : Bool := 0xD800 ≤ unit && unit < 0xDC00

def isLowSurrogate (unit : Nat) : Bool := 0xDC00 ≤ unit && unit < 0xE000

def joinSurrogates (high low : Nat) : Nat := 0x10000 + (high - 0xD800) * 0x400 + (low - 0xDC00)

def readString : List Char → Option (Spoken × List Char)
  | [] => none
  | '"'::rest => some (some [],rest)
  | '\\' :: 'u' :: a :: b :: c :: d :: rest => do
    let unit ← Text.hexNumber? [a,b,c,d]
    if isHighSurrogate unit then
      match rest with
      | '\\' :: 'u' :: e :: f :: g :: h :: after =>
        match (Text.hexNumber? [e,f,g,h]).filter isLowSurrogate with
        | some low => do
          let (spoken,rest) ← readString after
          return (spoken.say (Char.ofNat (joinSurrogates unit low)),rest)
        | none => do
          let (_,rest) ← readString ('\\' :: 'u' :: e :: f :: g :: h :: after)
          return (none,rest)
      | rest => do
        let (_,rest) ← readString rest
        return (none,rest)
    else
      let (spoken,rest) ← readString rest
      return (if isLowSurrogate unit then none else spoken.say (Char.ofNat unit),rest)
  | '\\'::letter::rest => do
    let c ← escaped? letter
    let (spoken,rest) ← readString rest
    return (spoken.say c,rest)
  | c::rest =>
    if c.toNat < 0x20 || c == '\\' then none
    else do
      let (spoken,rest) ← readString rest
      return (spoken.say c,rest)

def splitDigits (text : List Char) : List Char × List Char := text.span Char.isDigit

/-- The digits of a whole number: a zero alone, or digits without a leading zero. -/
def readWhole : List Char → Option (List Char × List Char)
  | '0'::rest => if (splitDigits rest).1.isEmpty then some (['0'],rest) else none
  | text => if (splitDigits text).1.isEmpty then none else some (splitDigits text)

def readFraction : List Char → Option (List Char × List Char)
  | '.'::rest =>
    let (digits,rest) := splitDigits rest
    if digits.isEmpty then none else some ('.'::digits,rest)
  | text => some ([],text)

def readSign : List Char → List Char × List Char
  | '+'::rest => (['+'],rest)
  | '-'::rest => (['-'],rest)
  | text => ([],text)

def readExponent : List Char → Option (List Char × List Char)
  | [] => some ([],[])
  | c::rest =>
    if c == 'e' || c == 'E' then
      let (sign,rest) := readSign rest
      let (digits,rest) := splitDigits rest
      if digits.isEmpty then none else some (c::sign ++ digits,rest)
    else some ([],c::rest)

def readNumber (text : List Char) : Option (Json × List Char) := do
  let (sign,text) := match text with
    | '-'::rest => (['-'],rest)
    | _ => ([],text)
  let (whole,text) ← readWhole text
  let (fraction,text) ← readFraction text
  let (exponent,text) ← readExponent text
  return (.number (String.ofList (sign ++ whole ++ fraction ++ exponent)),text)

def readScalar : List Char → Option (Json × List Char)
  | 'n' :: 'u' :: 'l' :: 'l' :: rest => some (.null,rest)
  | 't' :: 'r' :: 'u' :: 'e' :: rest => some (.bool true,rest)
  | 'f' :: 'a' :: 'l' :: 's' :: 'e' :: rest => some (.bool false,rest)
  | text => readNumber text

def objectOf (members : List (Option String × Json)) : Json :=
  match members.mapM fun member => member.1.map (·,member.2) with
  | some members => .object members
  | none => .unreadable

mutual

/-- Reads one value; the fuel bounds the values and separators on the way. -/
def readValue : Nat → List Char → Option (Json × List Char)
  | 0, _ => none
  | fuel + 1, text =>
    match skipSpace text with
    | '"'::rest => do
      let (spoken,rest) ← readString rest
      return (match spoken with
        | some chars => .string (String.ofList chars)
        | none => .unreadable,rest)
    | '['::rest =>
      match skipSpace rest with
      | ']'::rest => some (.array [],rest)
      | rest => do
        let (items,rest) ← readItems fuel rest
        return (.array items,rest)
    | '{'::rest =>
      match skipSpace rest with
      | '}'::rest => some (.object [],rest)
      | rest => do
        let (members,rest) ← readMembers fuel rest
        return (objectOf members,rest)
    | text => readScalar text

def readItems : Nat → List Char → Option (List Json × List Char)
  | 0, _ => none
  | fuel + 1, text => do
    let (item,rest) ← readValue fuel text
    match skipSpace rest with
    | ']'::rest => return ([item],rest)
    | ','::rest =>
      let (items,rest) ← readItems fuel rest
      return (item::items,rest)
    | _ => none

def readMembers : Nat → List Char → Option (List (Option String × Json) × List Char)
  | 0, _ => none
  | fuel + 1, text =>
    match skipSpace text with
    | '"'::rest => do
      let (spoken,rest) ← readString rest
      let name := spoken.map String.ofList
      match skipSpace rest with
      | ':'::rest =>
        let (value,rest) ← readValue fuel rest
        match skipSpace rest with
        | '}'::rest => return ([(name,value)],rest)
        | ','::rest =>
          let (members,rest) ← readMembers fuel rest
          return ((name,value)::members,rest)
        | _ => none
      | _ => none
    | _ => none

end

end Reader

def parse? (text : String) : Option Json := do
  let chars := text.toList
  let (value,rest) ← Reader.readValue (2 * chars.length + 2) chars
  if (Reader.skipSpace rest).isEmpty then some value else none

end InformerGen.Json
