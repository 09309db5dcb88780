/-! Names of declarations: the package that declares, the name, and the kind of declaration. -/
namespace InformerGen

structure Name where
  package : String
  name : String
deriving DecidableEq, Repr

/-- The kinds of declarations; variables and constants are one kind. -/
inductive SymbolKind where
  | type
  | function
  | var
deriving DecidableEq, Repr

structure SymbolRef where
  name : Name
  kind : SymbolKind
deriving DecidableEq, Repr

namespace Name

/-- A name of no package stands alone. -/
def text (name : Name) : String :=
  if name.package = "" then name.name else name.package ++ "." ++ name.name

def order (a b : Name) : Ordering :=
  (compare a.package b.package).then (compare a.name b.name)

end Name

namespace SymbolKind

def text : SymbolKind → String
  | type => "type"
  | function => "function"
  | var => "variable"

def all : List SymbolKind := [type,function,var]

def rank : SymbolKind → Nat
  | type => 0
  | function => 1
  | var => 2

def ofText? (text : String) : Option SymbolKind := all.find? (·.text == text)

end SymbolKind

namespace SymbolRef

def package (symbol : SymbolRef) : String := symbol.name.package

def text (symbol : SymbolRef) : String := symbol.kind.text ++ " " ++ symbol.name.text

def order (a b : SymbolRef) : Ordering :=
  (Name.order a.name b.name).then (compare a.kind.rank b.kind.rank)

def insertOrdered (symbol : SymbolRef) : List SymbolRef → List SymbolRef
  | [] => [symbol]
  | first::rest =>
    match order symbol first with
    | .lt => symbol::first::rest
    | .eq => first::rest
    | .gt => first::insertOrdered symbol rest

def sortDistinct (symbols : List SymbolRef) : List SymbolRef :=
  symbols.foldr insertOrdered []

def ofType (package name : String) : SymbolRef := ⟨⟨package,name⟩,.type⟩

def ofFunction (package name : String) : SymbolRef := ⟨⟨package,name⟩,.function⟩

end SymbolRef

end InformerGen
