import InformerGen.Toml.Building
import InformerGen.Toml.Scalar
import InformerGen.Toml.Strings

/-! Reading TOML documents. -/
namespace InformerGen.Toml

def maxDepth : Nat := 80

def isSpace (c : Char) : Bool := c == ' ' || c == '\t'

def skipSpace (chars : List Char) : List Char := chars.dropWhile isSpace

def skipComment : List Char → Option (List Char)
  | [] => some []
  | '\n'::rest => some ('\n'::rest)
  | '\r' :: '\n' :: rest => some ('\r' :: '\n' :: rest)
  | c::rest => if isForbidden c then none else skipComment rest

def skipLines (inComment : Bool) : List Char → Option (List Char)
  | [] => some []
  | '\n'::rest => skipLines false rest
  | '\r' :: '\n' :: rest => skipLines false rest
  | '#'::rest => skipLines true rest
  | c::rest =>
    if inComment then (if isForbidden c then none else skipLines true rest)
    else if isSpace c then skipLines false rest
    else some (c::rest)

def skipLineEnd (chars : List Char) : Option (List Char) := do
  let chars ← match skipSpace chars with
    | '#'::rest => skipComment rest
    | rest => some rest
  match chars with
  | [] => some []
  | '\n'::rest => some rest
  | '\r' :: '\n' :: rest => some rest
  | _ => none

def isBareKeyChar (c : Char) : Bool := c.isAlphanum || c == '_' || c == '-'

def readKey : List Char → Option (String × List Char)
  | '"'::rest => (readBasic rest).map fun (key,rest) => (String.ofList key,rest)
  | '\''::rest => (readLiteral rest).map fun (key,rest) => (String.ofList key,rest)
  | chars =>
    let (key,rest) := chars.span isBareKeyChar
    if key.isEmpty then none else some (String.ofList key,rest)

/-- Reads keys joined by dots, with the blanks around them. Each takes a character, which the fuel
counts. -/
def readDottedKey : Nat → List Char → Option (List String × List Char)
  | 0, _ => none
  | fuel + 1, chars => do
    let (key,rest) ← readKey (skipSpace chars)
    match skipSpace rest with
    | '.'::rest =>
      let (path,rest) ← readDottedKey fuel rest
      return (key::path,rest)
    | rest => return ([key],rest)

mutual

/-- Reads a value. The fuel bounds the values and separators on the way, the depth the brackets that
may still be opened. -/
def readValue : Nat → Nat → List Char → Option (Toml × List Char)
  | 0, _, _ => none
  | fuel + 1, depth, chars =>
    match chars with
    | '['::rest =>
      if depth = 0 then none
      else do
        let (items,rest) ← readItems fuel (depth - 1) rest
        return (.array false items,rest)
    | '{'::rest =>
      if depth = 0 then none
      else do
        let (fields,rest) ← readFields fuel (depth - 1) [] rest
        return (.table .inline fields,rest)
    | c::_ =>
      if c == '"' || c == '\'' then
        (readString chars).map fun (value,rest) => (.string (String.ofList value),rest)
      else readScalar chars
    | [] => none

def readItems : Nat → Nat → List Char → Option (List Toml × List Char)
  | 0, _, _ => none
  | fuel + 1, depth, chars => do
    match ← skipLines false chars with
    | ']'::rest => return ([],rest)
    | chars =>
      let (item,rest) ← readValue fuel depth chars
      match ← skipLines false rest with
      | ']'::rest => return ([item],rest)
      | ','::rest =>
        let (items,rest) ← readItems fuel depth rest
        return (item::items,rest)
      | _ => none

def readFields : Nat → Nat → Fields → List Char → Option (Fields × List Char)
  | 0, _, _, _ => none
  | fuel + 1, depth, fields, chars => do
    match ← skipLines false chars with
    | '}'::rest => return (fields,rest)
    | chars =>
      let (dottedKey,rest) ← readDottedKey (chars.length + 1) chars
      let rest ← readMark '=' rest
      let (value,rest) ← readValue fuel depth (skipSpace rest)
      let (path,key) ← splitPath dottedKey
      let fields ← insertDotted value key path fields
      match ← skipLines false rest with
      | '}'::rest => return (fields,rest)
      | ','::rest => readFields fuel depth fields rest
      | _ => none

end

def readHeader (draft : Draft) : List Char → Option (Draft × List Char)
  | '[' :: '[' :: rest => do
    let (header,rest) ← readDottedKey (rest.length + 1) rest
    match rest with
    | ']' :: ']' :: rest => return (← draft.begin true header,rest)
    | _ => none
  | '['::rest => do
    let (header,rest) ← readDottedKey (rest.length + 1) rest
    match rest with
    | ']'::rest => return (← draft.begin false header,rest)
    | _ => none
  | _ => none

def readAssignment (draft : Draft) (chars : List Char) : Option (Draft × List Char) := do
  let (dottedKey,rest) ← readDottedKey (chars.length + 1) chars
  let rest ← readMark '=' rest
  let (value,rest) ← readValue (2 * rest.length + 2) maxDepth (skipSpace rest)
  return (← draft.assign dottedKey value,rest)

def readLines : Nat → Draft → List Char → Option Draft
  | 0, _, _ => none
  | fuel + 1, draft, chars => do
    match ← skipLines false chars with
    | [] => return draft
    | c::rest =>
      let (draft,rest) ←
        if c == '[' then readHeader draft (c::rest) else readAssignment draft (c::rest)
      readLines fuel draft (← skipLineEnd rest)

def dropByteOrderMark : List Char → List Char
  | '\uFEFF'::rest => rest
  | chars => chars

def parse? (document : String) : Option Toml := do
  let chars := dropByteOrderMark document.toList
  let draft ← readLines (chars.length + 1) .empty chars
  return .table .header draft.fields

end InformerGen.Toml
