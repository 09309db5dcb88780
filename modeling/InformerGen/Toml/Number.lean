import InformerGen.Text.Hex
import InformerGen.Toml

/-! The spellings of TOML numbers. -/
namespace InformerGen.Toml

/-- Digits in which single underscores may stand between two of them; returned without these. -/
def digitRun? (isDigit : Char → Bool) (text : List Char) : Option (List Char) :=
  let groups := text.splitOn '_'
  if groups.all fun group => !group.isEmpty && group.all isDigit then some groups.flatten else none

def valueOf (base : Nat) (digits : List Char) : Nat :=
  digits.foldl (fun value c => base * value + (Text.hexDigit? c).getD 0) 0

def wholeDigits? (text : List Char) : Option (List Char) := do
  let digits ← digitRun? Char.isDigit text
  if text.head? = some '0' && text.length ≠ 1 then none else some digits

def splitSign : List Char → Option Bool × List Char
  | '+'::rest => (some false,rest)
  | '-'::rest => (some true,rest)
  | text => (none,text)

def isOctal (c : Char) : Bool := '0' ≤ c && c ≤ '7'

def isBinary (c : Char) : Bool := c == '0' || c == '1'

def integer? (text : List Char) : Option Toml :=
  match text with
  | '0' :: 'x' :: digits =>
    (digitRun? (fun c => (Text.hexDigit? c).isSome) digits).map fun digits =>
      .integer (valueOf 16 digits)
  | '0' :: 'o' :: digits => (digitRun? isOctal digits).map fun digits => .integer (valueOf 8 digits)
  | '0' :: 'b' :: digits => (digitRun? isBinary digits).map fun digits => .integer (valueOf 2 digits)
  | _ =>
    let (sign,digits) := splitSign text
    (wholeDigits? digits).map fun digits =>
      let value : Int := valueOf 10 digits
      .integer (if sign = some true then -value else value)

/-- The least number that is rounded to infinity: half a step above the greatest finite one. -/
def overflowBound : Nat := Nat.pow 2 1024 - Nat.pow 2 970

/-- Whether so many units of that power of ten are rounded to infinity. Powers far from the bound are
told apart by their number of digits. -/
def overflows (units : Nat) (digits : Nat) (exponent : Int) : Bool :=
  if units = 0 then false
  else if 400 < digits + exponent then true
  else if digits + exponent < 0 then false
  else if 0 ≤ exponent then overflowBound ≤ units * Nat.pow 10 exponent.toNat
  else overflowBound * Nat.pow 10 (-exponent).toNat ≤ units

def fraction? : Option (List Char) → Option (List Char)
  | none => some []
  | some digits => digitRun? Char.isDigit digits

def exponent? : Option (List Char) → Option Int
  | none => some 0
  | some text =>
    let (sign,digits) := splitSign text
    (digitRun? Char.isDigit digits).map fun digits =>
      let value : Int := valueOf 10 digits
      if sign = some true then -value else value

def splitAny (isMark : Char → Bool) (text : List Char) : List Char × Option (List Char) :=
  match text.span fun c => !isMark c with
  | (before,[]) => (before,none)
  | (before,_::after) => (before,some after)

def float? (text : List Char) : Option Toml :=
  let (_,unsigned) := splitSign text
  if unsigned = "inf".toList || unsigned = "nan".toList then some (.float false)
  else
    let (mantissa,power) := splitAny (fun c => c == 'e' || c == 'E') unsigned
    let (whole,decimals) := splitAny (· == '.') mantissa
    if power.isNone && decimals.isNone then none
    else do
      let whole ← wholeDigits? whole
      let decimals ← fraction? decimals
      let power ← exponent? power
      let digits := whole ++ decimals
      let units := valueOf 10 digits
      return .float (overflows units (Nat.repr units).length (power - decimals.length))

end InformerGen.Toml
