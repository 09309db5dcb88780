import InformerGen.Text.Case
import InformerGen.Text.Cut
import InformerGen.Text.Numeral

/-! Go identifiers, and the names made for Go from other texts. -/
namespace InformerGen.Identifier

def keywords : List String := [
  "break","case","chan","const","continue","default","defer","else","fallthrough","for",
  "func","go","goto","if","import","interface","map","package","range","return","select",
  "struct","switch","type","var"]

def isKeyword (name : String) : Bool := keywords.contains name

def opens (c : Char) : Bool := Text.isLetter c || c == '_'

def continues (c : Char) : Bool := Text.isAlphanumeric c || c == '_'

def wellSpelled : List Char → Bool
  | [] => false
  | c::rest => opens c && rest.all continues

/-- Keywords are spelled like identifiers but are none. -/
def isIdentifier (name : String) : Bool := wellSpelled name.toList && !isKeyword name

def isPathPunctuation (c : Char) : Bool := c == '.' || c == '-' || c == '_' || c == '~'

def sanitize (segment : String) : String :=
  String.ofList (segment.toList.filter fun c => !isPathPunctuation c)

/-- Package names are in lower case; a keyword is lengthened by `pkg`. -/
def packageName (segment : String) : String :=
  let name := Text.lowercase (sanitize segment)
  if isKeyword name then name ++ "pkg" else name

/-- Words joined by underscores or dashes become one word of capitalised words. -/
def pascalCase (text : String) : String :=
  String.join ((text.toList.splitOnP fun c => c == '_' || c == '-').map fun word =>
    Text.capitalize (String.ofList word))

end InformerGen.Identifier
