import InformerGen.Text.CaseTable
import InformerGen.Text.WordEnd

/-!
Upper and lower case by the full mappings of Unicode. One character may become several, and in a
word a capital sigma becomes the final small sigma when the word ends with it.
-/
namespace InformerGen.Text

/-- The mapping of a code point by its special entry, else by its run, else to itself. -/
def mapCase (specials : List (Nat × List Nat)) (runs : List CaseRun) (point : Nat) : List Nat :=
  (specials.lookup point).getD [(runs.findSome? (·.image? point)).getD point]

def lowerChar (c : Char) : List Char :=
  if c.toNat < 0x80 then [c.toLower]
  else (mapCase lowerSpecials lowerRuns c.toNat).map Char.ofNat

def upperChar (c : Char) : List Char :=
  if c.toNat < 0x80 then [c.toUpper]
  else (mapCase upperSpecials upperRuns c.toNat).map Char.ofNat

/-- Lower case of a text that stands after `before`, which is given backwards. -/
def lowercaseAfter (before : List Char) : List Char → List Char
  | [] => []
  | c::rest =>
    let image :=
      if c = 'Σ' then [if meetsCased before && !meetsCased rest then 'ς' else 'σ'] else lowerChar c
    image ++ lowercaseAfter (c::before) rest

def lowercase (text : String) : String := String.ofList (lowercaseAfter [] text.toList)

def capitalize (text : String) : String :=
  match text.toList with
  | [] => ""
  | c::rest => String.ofList (upperChar c ++ rest)

def uncapitalize (text : String) : String :=
  match text.toList with
  | [] => ""
  | c::rest => String.ofList (lowerChar c ++ rest)

end InformerGen.Text
