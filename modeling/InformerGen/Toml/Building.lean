import InformerGen.Toml

/-!
Putting the lines of a TOML document together. A table has one header at most, a key is given once,
and a value that is complete is not added to.
-/
namespace InformerGen.Toml

def setField (key : String) (value : Toml) : Fields → Fields
  | [] => [(key,value)]
  | field::rest =>
    if field.1 = key then (key,value)::rest else field::setField key value rest

def onLast (work : Fields → Option Fields) : List Toml → Option (List Toml)
  | [] => none
  | [.table origin fields] => (work fields).map fun fields => [.table origin fields]
  | [_] => none
  | item::rest => (onLast work rest).map (item::·)

/-- Works on the fields of the table at a path of headers. Tables on the way that are missing are
implied, and of tables in an array the last is meant. -/
def atHeader (work : Fields → Option Fields) : List String → Fields → Option Fields
  | [], fields => work fields
  | key::path, fields =>
    match fields.lookup key with
    | none =>
      (atHeader work path []).map fun inner => setField key (.table .implied inner) fields
    | some (.table .inline _) => none
    | some (.table origin inner) =>
      (atHeader work path inner).map fun inner => setField key (.table origin inner) fields
    | some (.array true items) =>
      (onLast (atHeader work path) items).map fun items => setField key (.array true items) fields
    | some _ => none

/-- Gives the last key of a dotted key its value. The tables of the other keys are new or were begun
by dotted keys; an implied table may be passed through but not added to. -/
def insertDotted (value : Toml) (key : String) : List String → Fields → Option Fields
  | [], fields => if (fields.lookup key).isSome then none else some (setField key value fields)
  | first::path, fields =>
    match fields.lookup first with
    | none =>
      (insertDotted value key path []).map fun inner => setField first (.table .dotted inner) fields
    | some (.table .dotted inner) =>
      (insertDotted value key path inner).map fun inner =>
        setField first (.table .dotted inner) fields
    | some (.table .implied inner) =>
      if path.isEmpty then none
      else (insertDotted value key path inner).map fun inner =>
        setField first (.table .implied inner) fields
    | some _ => none

def splitPath : List String → Option (List String × String)
  | [] => none
  | [key] => some ([],key)
  | key::rest => (splitPath rest).map fun (path,last) => (key::path,last)

def openTable (key : String) (fields : Fields) : Option Fields :=
  match fields.lookup key with
  | none => some (setField key (.table .header []) fields)
  | some (.table .implied inner) => some (setField key (.table .header inner) fields)
  | some _ => none

def openElement (key : String) (fields : Fields) : Option Fields :=
  match fields.lookup key with
  | none => some (setField key (.array true [.table .header []]) fields)
  | some (.array true items) =>
    some (setField key (.array true (items ++ [.table .header []])) fields)
  | some _ => none

structure Draft where
  fields : Fields
  header : List String

namespace Draft

def empty : Draft := ⟨[],[]⟩

def begin (draft : Draft) (element : Bool) (header : List String) : Option Draft := do
  let (path,key) ← splitPath header
  let fields ← atHeader (if element then openElement key else openTable key) path draft.fields
  return ⟨fields,header⟩

def assign (draft : Draft) (dottedKey : List String) (value : Toml) : Option Draft := do
  let (path,key) ← splitPath dottedKey
  let fields ← atHeader (insertDotted value key path) draft.header draft.fields
  return { draft with fields }

end Draft

end InformerGen.Toml
