import InformerGen.OrderedMap
import InformerGen.Symbol

/-! The type universe: every known package with the types, functions and variables it declares. -/
namespace InformerGen

structure TypeDescriptor where
  name : Name
  comments : List String
  /-- Comment lines on the group that the declaration stands in. -/
  inherited : List String
  members : List String
deriving DecidableEq, Repr

namespace TypeDescriptor

def plain (package name : String) : TypeDescriptor := ⟨⟨package,name⟩,[],[],[]⟩

/-- All comment lines; the type's own lines come last, so that they take precedence. -/
def lines (type : TypeDescriptor) : List String := type.inherited ++ type.comments

end TypeDescriptor

structure Package where
  path : String
  types : OrderedMap TypeDescriptor
  functions : OrderedSet
  vars : OrderedSet
deriving DecidableEq

namespace Package

def bare (path : String) : Package := ⟨path,.empty,.empty,.empty⟩

/-- Declares a type, which thereby belongs to the package. -/
def declareType (package : Package) (type : TypeDescriptor) : Package :=
  { package with
    types := package.types.insert type.name.name
      { type with name := ⟨package.path,type.name.name⟩ } }

def declareName (package : Package) (name : String) : Package :=
  package.declareType (.plain package.path name)

def declareFunction (package : Package) (name : String) : Package :=
  { package with functions := package.functions.insert name () }

def declareVariable (package : Package) (name : String) : Package :=
  { package with vars := package.vars.insert name () }

def declares (package : Package) (name : String) : SymbolKind → Bool
  | .type => package.types.contains name
  | .function => package.functions.contains name
  | .var => package.vars.contains name

end Package

structure Universe where
  packages : OrderedMap Package
deriving DecidableEq

namespace Universe

def empty : Universe := ⟨.empty⟩

def insert (known : Universe) (package : Package) : Universe :=
  ⟨known.packages.insert package.path package⟩

def exchange (known : Universe) (package : Package) : Option Package × Universe :=
  let exchanged := known.packages.exchange package.path package
  (exchanged.1,⟨exchanged.2⟩)

def ofPackages (packages : List Package) : Universe := packages.foldl insert empty

def package? (known : Universe) (path : String) : Option Package := known.packages.get? path

def type? (known : Universe) (name : Name) : Option TypeDescriptor :=
  (known.package? name.package).bind fun package => package.types.get? name.name

def declares (known : Universe) (symbol : SymbolRef) : Bool :=
  (known.package? symbol.package).any fun package => package.declares symbol.name.name symbol.kind

def paths (known : Universe) : List String := known.packages.keys

def types (known : Universe) : List TypeDescriptor :=
  known.packages.values.flatMap fun package => package.types.values

end Universe

end InformerGen
