import InformerGen.Text.Hex

/-!
The four kinds of TOML strings. A basic string knows escapes and a literal one does not; each stays
on its line, or runs over several between triple quotes.
-/
namespace InformerGen.Toml

def isForbidden (c : Char) : Bool := (c.toNat < 0x20 && c != '\t') || c.toNat == 0x7F

def escaped? : Char → Option Char
  | 'b' => some '\x08'
  | 't' => some '\t'
  | 'n' => some '\n'
  | 'f' => some '\x0C'
  | 'r' => some '\r'
  | 'e' => some '\x1B'
  | '"' => some '"'
  | '\\' => some '\\'
  | _ => none

def charOfHex? (digits : List Char) : Option Char :=
  (Text.hexNumber? digits).bind fun point =>
    if point < 0xD800 || (0xE000 ≤ point && point < 0x110000) then some (Char.ofNat point) else none

abbrev ReadString := Option (List Char × List Char)

def ReadString.say (read : ReadString) (c : Char) : ReadString :=
  read.map fun (chars,rest) => (c::chars,rest)

def ReadString.say? (read : ReadString) (c : Option Char) : ReadString := c.bind read.say

def readBasic : List Char → ReadString
  | [] => none
  | '"'::rest => some ([],rest)
  | '\\' :: 'x' :: a :: b :: rest => (readBasic rest).say? (charOfHex? [a,b])
  | '\\' :: 'u' :: a :: b :: c :: d :: rest => (readBasic rest).say? (charOfHex? [a,b,c,d])
  | '\\' :: 'U' :: a :: b :: c :: d :: e :: f :: g :: h :: rest =>
    (readBasic rest).say? (charOfHex? [a,b,c,d,e,f,g,h])
  | '\\'::letter::rest => (readBasic rest).say? (escaped? letter)
  | c::rest => if isForbidden c || c == '\\' then none else (readBasic rest).say c

def readLiteral : List Char → ReadString
  | [] => none
  | '\''::rest => some ([],rest)
  | c::rest => if isForbidden c then none else (readLiteral rest).say c

inductive LineMode where
  | plain
  /-- After a backslash at the end of a line, before the line end. -/
  | lineEnd
  /-- After such a line end, in the blanks before further text. -/
  | indentation
deriving DecidableEq

/-- Reads a basic string to its three closing quotes; up to two more belong to the text. -/
def readLongBasic (mode : LineMode) : List Char → ReadString
  | [] => none
  | '\r' :: '\n' :: rest =>
    match mode with
    | .plain => ((readLongBasic .plain rest).say '\n').say '\r'
    | _ => readLongBasic .indentation rest
  | '\n'::rest =>
    match mode with
    | .plain => (readLongBasic .plain rest).say '\n'
    | _ => readLongBasic .indentation rest
  | ' '::rest =>
    match mode with
    | .plain => (readLongBasic .plain rest).say ' '
    | mode => readLongBasic mode rest
  | '\t'::rest =>
    match mode with
    | .plain => (readLongBasic .plain rest).say '\t'
    | mode => readLongBasic mode rest
  | '"' :: '"' :: '"' :: '"' :: '"' :: rest =>
    if mode = .lineEnd then none else some (['"','"'],rest)
  | '"' :: '"' :: '"' :: '"' :: rest => if mode = .lineEnd then none else some (['"'],rest)
  | '"' :: '"' :: '"' :: rest => if mode = .lineEnd then none else some ([],rest)
  | '\\' :: 'x' :: a :: b :: rest =>
    if mode = .lineEnd then none else (readLongBasic .plain rest).say? (charOfHex? [a,b])
  | '\\' :: 'u' :: a :: b :: c :: d :: rest =>
    if mode = .lineEnd then none else (readLongBasic .plain rest).say? (charOfHex? [a,b,c,d])
  | '\\' :: 'U' :: a :: b :: c :: d :: e :: f :: g :: h :: rest =>
    if mode = .lineEnd then none
    else (readLongBasic .plain rest).say? (charOfHex? [a,b,c,d,e,f,g,h])
  | '\\'::letter::rest =>
    if mode = .lineEnd then none
    else if letter == '\n' then readLongBasic .indentation rest
    else if letter == ' ' || letter == '\t' || letter == '\r' then
      if letter == '\r' && rest.head? != some '\n' then none else readLongBasic .lineEnd rest
    else (readLongBasic .plain rest).say? (escaped? letter)
  | c::rest =>
    if mode = .lineEnd || isForbidden c || c == '\\' then none else (readLongBasic .plain rest).say c

def readLongLiteral : List Char → ReadString
  | [] => none
  | '\r' :: '\n' :: rest => ((readLongLiteral rest).say '\n').say '\r'
  | '\n'::rest => (readLongLiteral rest).say '\n'
  | '\'' :: '\'' :: '\'' :: '\'' :: '\'' :: rest => some (['\'','\''],rest)
  | '\'' :: '\'' :: '\'' :: '\'' :: rest => some (['\''],rest)
  | '\'' :: '\'' :: '\'' :: rest => some ([],rest)
  | c::rest => if isForbidden c then none else (readLongLiteral rest).say c

def dropFirstLineEnd : List Char → List Char
  | '\r' :: '\n' :: rest => rest
  | '\n'::rest => rest
  | text => text

def readString : List Char → ReadString
  | '"' :: '"' :: '"' :: rest => readLongBasic .plain (dropFirstLineEnd rest)
  | '"'::rest => readBasic rest
  | '\'' :: '\'' :: '\'' :: rest => readLongLiteral (dropFirstLineEnd rest)
  | '\''::rest => readLiteral rest
  | _ => none

end InformerGen.Toml
