import InformerGen.Toml.Moment

/-! TOML values that are written without quotes or brackets. -/
namespace InformerGen.Toml

def boolean? (text : List Char) : Option Toml :=
  if text = "true".toList then some (.boolean true)
  else if text = "false".toList then some (.boolean false)
  else none

def scalar? (text : List Char) : Option Toml :=
  (boolean? text).orElse fun _ => (moment? text).orElse fun _ =>
    (integer? text).orElse fun _ => float? text

def isScalarChar (c : Char) : Bool :=
  c.isAlphanum || c == '_' || c == '+' || c == '-' || c == '.' || c == ':'

/-- Reads such a value. A blank may stand between a date and a time. -/
def readScalar (chars : List Char) : Option (Toml × List Char) :=
  let (written,rest) := chars.span isScalarChar
  match (readDate written,rest) with
  | (some (_,[]),' '::c::after) =>
    if c.isDigit then
      let (time,rest) := (c::after).span isScalarChar
      (scalar? (written ++ ' '::time)).map (·,rest)
    else (scalar? written).map (·,rest)
  | _ => (scalar? written).map (·,rest)

end InformerGen.Toml
