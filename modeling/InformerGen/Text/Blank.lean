import InformerGen.Text.Ranges

/-! Blanks: the characters with the Unicode property White_Space, and removing them at both ends. -/
namespace InformerGen.Text

def blankRanges : List (Nat × Nat) := [
  (0x9,0xD),(0x20,0x20),(0x85,0x85),(0xA0,0xA0),(0x1680,0x1680),(0x2000,0x200A),
  (0x2028,0x2029),(0x202F,0x202F),(0x205F,0x205F),(0x3000,0x3000)]

def isBlank (c : Char) : Bool := covers blankRanges c.toNat

def trimEndChars (text : List Char) : List Char :=
  text.foldr (fun c rest => if rest.isEmpty && isBlank c then [] else c::rest) []

def trimChars (text : List Char) : List Char := trimEndChars (text.dropWhile isBlank)

def trim (text : String) : String := String.ofList (trimChars text.toList)

def allBlank (text : String) : Bool := text.toList.all isBlank

end InformerGen.Text
