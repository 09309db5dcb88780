import InformerGen.OrderedMap
import InformerGen.Text.Cut

/-!
The imports of a generated file: which package is known by which qualifier. A package has one
qualifier and a qualifier stands for one package.
-/
namespace InformerGen

inductive ImportError where
  | packageTaken (path existing requested : String)
  | qualifierTaken (qualifier existing requested : String)
deriving DecidableEq, Repr

structure ImportTracker where
  byPath : OrderedMap String
  byQualifier : OrderedMap String
deriving DecidableEq

namespace ImportTracker

def empty : ImportTracker := ⟨.empty,.empty⟩

def check (imports : ImportTracker) (path qualifier : String) : Except ImportError Unit :=
  match (imports.byPath.get? path).filter (· != qualifier) with
  | some existing => .error (.packageTaken path existing qualifier)
  | none =>
    match (imports.byQualifier.get? qualifier).filter (· != path) with
    | some existing => .error (.qualifierTaken qualifier existing path)
    | none => .ok ()

def add (imports : ImportTracker) (path qualifier : String) :
    Except ImportError Unit × ImportTracker :=
  match imports.check path qualifier with
  | .error error => (.error error,imports)
  | .ok () =>
    (.ok (),⟨imports.byPath.insert path qualifier,imports.byQualifier.insert qualifier path⟩)

/-- Records imports one after the other. The first that is refused ends this, and those before it
stay. -/
def addAll (imports : ImportTracker) :
    List (String × String) → Except ImportError Unit × ImportTracker
  | [] => (.ok (),imports)
  | (path,qualifier)::rest =>
    match imports.add path qualifier with
    | (.error error,imports) => (.error error,imports)
    | (.ok (),imports) => imports.addAll rest

def checkAll (imports : ImportTracker) (entries : List (String × String)) :
    Except ImportError Unit :=
  entries.forM fun entry => imports.check entry.1 entry.2

/-- Records the imports of another tracker, once none of them is refused. -/
def merge (imports other : ImportTracker) : Except ImportError Unit × ImportTracker :=
  match imports.checkAll other.byPath.entries with
  | .error error => (.error error,imports)
  | .ok () => imports.addAll other.byPath.entries

def qualifier? (imports : ImportTracker) (path : String) : Option String :=
  imports.byPath.get? path

/-- The import of one package. The qualifier is left out when it is the last segment of the path. -/
def line (path qualifier : String) : String :=
  if Text.lastPiece '/' path = qualifier then "\"" ++ path ++ "\""
  else qualifier ++ " \"" ++ path ++ "\""

def lines (imports : ImportTracker) : List String :=
  imports.byPath.entries.map fun entry => line entry.1 entry.2

def size (imports : ImportTracker) : Nat := imports.byPath.size

def isEmpty (imports : ImportTracker) : Bool := imports.byPath.isEmpty

end ImportTracker

end InformerGen
