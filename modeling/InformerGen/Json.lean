/-! JSON values and their compact text. -/
namespace InformerGen

inductive Json where
  | null
  | bool (value : Bool)
  | number (digits : String)
  | string (text : String)
  | array (items : List Json)
  /-- Members in order; a name may stand more than once. -/
  | object (members : List (String × Json))
  /-- A string that escapes half of a surrogate pair, or an object with such a name. It has no text
  to be read but can be passed over. -/
  | unreadable

namespace Json

def hexPair (n : Nat) : String := String.ofList [Nat.digitChar (n / 16),Nat.digitChar (n % 16)]

def escapeChar (c : Char) : String :=
  match c with
  | '"' => "\\\""
  | '\\' => "\\\\"
  | '\n' => "\\n"
  | '\r' => "\\r"
  | '\t' => "\\t"
  | '\x08' => "\\b"
  | '\x0C' => "\\f"
  | _ => if c.toNat < 0x20 then "\\u00" ++ hexPair c.toNat else c.toString

def quote (text : String) : String := "\"" ++ String.join (text.toList.map escapeChar) ++ "\""

mutual

def render : Json → String
  | null => "null"
  | bool value => if value then "true" else "false"
  | number digits => digits
  | string text => quote text
  | array items => "[" ++ renderItems items ++ "]"
  | object members => "\x7b" ++ renderMembers members ++ "\x7d"
  | unreadable => quote "\uFFFD"

def renderItems : List Json → String
  | [] => ""
  | [item] => render item
  | item::rest => render item ++ "," ++ renderItems rest

def renderMembers : List (String × Json) → String
  | [] => ""
  | [(name,value)] => quote name ++ ":" ++ render value
  | (name,value)::rest => quote name ++ ":" ++ render value ++ "," ++ renderMembers rest

end

def text? : Json → Option String
  | string text => some text
  | _ => none

def items? : Json → Option (List Json)
  | array items => some items
  | _ => none

def texts? (value : Json) : Option (List String) := value.items?.bind fun items => items.mapM text?

def members? : Json → Option (List (String × Json))
  | object members => some members
  | _ => none

/-- The fields of a record, given by name in an object or by position in an array. An object may
have other members but none of the fields twice; an array may end early. -/
def fields? (names : List String) : Json → Option (List (Option Json))
  | object members =>
    if names.any fun name => 1 < members.countP (·.1 == name) then none
    else some (names.map fun name => members.lookup name)
  | array items =>
    if items.length ≤ names.length then some (names.mapIdx fun index _ => items[index]?) else none
  | _ => none

end Json

end InformerGen
