/-! TOML values, with what later lines of a document may still do to a table or an array. -/
namespace InformerGen

inductive TableOrigin where
  | inline
  | header
  | implied
  | dotted
deriving DecidableEq, Repr

inductive Toml where
  | string (value : String)
  | integer (value : Int)
  /-- A floating-point number; infinite for one beyond all finite ones that was not written so. -/
  | float (overflows : Bool)
  | boolean (value : Bool)
  | moment (form : String)
  /-- Whether the items are tables with headers of their own, and the items. -/
  | array (headed : Bool) (items : List Toml)
  | table (origin : TableOrigin) (fields : List (String × Toml))

namespace Toml

abbrev Fields := List (String × Toml)

def text? : Toml → Option String
  | string value => some value
  | _ => none

def items? : Toml → Option (List Toml)
  | array _ items => some items
  | _ => none

def momentKey : String := "$__toml_private_datetime"

/-- The fields of a table. A moment counts as a table that holds its standard form. -/
def fields? : Toml → Option Fields
  | table _ fields => some fields
  | moment form => some [(momentKey,string form)]
  | _ => none

def texts? (value : Toml) : Option (List String) := value.items?.bind fun items => items.mapM text?

def textFields? (value : Toml) : Option (List (String × String)) :=
  value.fields?.bind fun fields => fields.mapM fun field => field.2.text?.map (field.1,·)

mutual

/-- Numbers have to be in range even where nobody reads them: an integer within 128 bits, signed or
not, and a floating-point number below infinity. -/
def inRange : Toml → Bool
  | integer value => -2 ^ 127 ≤ value && value < 2 ^ 128
  | float overflows => !overflows
  | array _ items => allInRange items
  | table _ fields => allFieldsInRange fields
  | _ => true

def allInRange : List Toml → Bool
  | [] => true
  | item::rest => inRange item && allInRange rest

def allFieldsInRange : List (String × Toml) → Bool
  | [] => true
  | (_,value)::rest => inRange value && allFieldsInRange rest

end

/-- The fields of a record, by name in a table or by position in an array. Other fields are passed
over, and so are items beyond the last position. -/
def record? (names : List String) (value : Toml) : Option (List (Option Toml)) :=
  match value.fields?, value.items? with
  | some fields, _ =>
    if fields.all fun field => names.contains field.1 || field.2.inRange then
      some (names.map fun name => fields.lookup name)
    else none
  | none, some items => some (names.mapIdx fun index _ => items[index]?)
  | none, none => none

end Toml

end InformerGen
