import InformerGen.Toml.Number

/-!
The spellings of TOML dates and times. Spellings of one moment have one standard form, with a capital
letter between date and time and no needless zeros in the fraction of a second.
-/
namespace InformerGen.Toml

def readDigits (count : Nat) (text : List Char) : Option (Nat × List Char) :=
  let digits := text.take count
  if digits.length = count && digits.all Char.isDigit then
    some (valueOf 10 digits,text.drop count)
  else none

def isLeapYear (year : Nat) : Bool := year % 4 == 0 && (year % 100 != 0 || year % 400 == 0)

def daysInMonth (year month : Nat) : Nat :=
  if month = 2 then (if isLeapYear year then 29 else 28)
  else if [4,6,9,11].contains month then 30
  else 31

def readMark (mark : Char) : List Char → Option (List Char)
  | [] => none
  | c::rest => if c = mark then some rest else none

abbrev ReadForm := Option (List Char × List Char)

def readDate (text : List Char) : ReadForm := do
  let (year,rest) ← readDigits 4 text
  let rest ← readMark '-' rest
  let (month,rest) ← readDigits 2 rest
  let rest ← readMark '-' rest
  let (day,rest) ← readDigits 2 rest
  if 1 ≤ month && month ≤ 12 && 1 ≤ day && day ≤ daysInMonth year month then
    some (text.take 10,rest)
  else none

/-- A fraction of a second counts to its ninth digit. -/
def fractionForm (digits : List Char) : List Char :=
  let kept := ((digits.take 9).reverse.dropWhile (· == '0')).reverse
  '.'::(if kept.isEmpty then ['0'] else kept)

def readSecondFraction : List Char → ReadForm
  | '.'::rest =>
    let (digits,rest) := rest.span Char.isDigit
    if digits.isEmpty then none else some (fractionForm digits,rest)
  | text => some ([],text)

/-- Reads seconds, which may be left out. A minute may have a leap second. -/
def readSeconds : List Char → ReadForm
  | ':'::text => do
    let (second,rest) ← readDigits 2 text
    let (fraction,rest) ← readSecondFraction rest
    if second ≤ 60 then some (':'::text.take 2 ++ fraction,rest) else none
  | text => some ([],text)

def readHourMinute (lastHour : Nat) (text : List Char) : ReadForm := do
  let (hour,rest) ← readDigits 2 text
  let rest ← readMark ':' rest
  let (minute,rest) ← readDigits 2 rest
  if hour ≤ lastHour && minute ≤ 59 then some (text.take 5,rest) else none

def readTime (text : List Char) : ReadForm := do
  let (start,rest) ← readHourMinute 23 text
  let (seconds,rest) ← readSeconds rest
  return (start ++ seconds,rest)

def isDistance (text : List Char) : Bool :=
  match readHourMinute 23 text with
  | some (_,[]) => true
  | _ => text = "24:00".toList

def offset? : List Char → Option (List Char)
  | [] => some []
  | ['Z'] => some ['Z']
  | ['z'] => some ['Z']
  | sign::text =>
    if (sign == '+' || sign == '-') && isDistance text then
      some ((if text = "00:00".toList then '+' else sign)::text)
    else none

def joinsDateAndTime (c : Char) : Bool := c == 'T' || c == 't' || c == ' '

def momentForm? (text : List Char) : Option (List Char) :=
  match readDate text with
  | some (date,[]) => some date
  | some (date,separator::rest) =>
    if joinsDateAndTime separator then do
      let (time,rest) ← readTime rest
      return date ++ 'T'::time ++ (← offset? rest)
    else none
  | none =>
    match readTime text with
    | some (time,[]) => some time
    | _ => none

def moment? (text : List Char) : Option Toml :=
  (momentForm? text).map fun form => .moment (String.ofList form)

end InformerGen.Toml
