import InformerGen.Alias.Table
import InformerGen.Recording
import InformerGen.Text.Quoted
import InformerGen.Universe

/-!
Resolving references to declarations: to the text that names them in one generated file, together
with the import that the text needs.
-/
namespace InformerGen

structure Symbol where
  reference : SymbolRef
  /-- The qualifier; a declaration of the file's own package has none. -/
  qualifier : Option String
deriving DecidableEq, Repr

namespace Symbol

def text (symbol : Symbol) : String :=
  match symbol.qualifier with
  | some qualifier => qualifier ++ "." ++ symbol.reference.name.name
  | none => symbol.reference.name.name

def qualifierText (symbol : Symbol) : String :=
  match symbol.qualifier with
  | some qualifier => "Some(" ++ Text.quoted qualifier ++ ")"
  | none => "None"

def event (symbol : Symbol) : Event :=
  ⟨.trace,"resolved symbol",
    [("symbol",symbol.reference.text),("alias",symbol.qualifierText)]⟩

end Symbol

/-- What references are resolved against: the known declarations, the home package, which is that
of the generated file, and the aliases of other packages. -/
structure Resolver where
  known : Universe
  home : String
  aliases : AliasTable
deriving DecidableEq

namespace Resolver

/-- Declarations of the standard library that need not be made known. -/
def prelude : List SymbolRef := [.ofType "context" "Context",.ofFunction "context" "WithValue"]

def isDeclared (resolver : Resolver) (reference : SymbolRef) : Bool :=
  resolver.known.declares reference || prelude.contains reference

def require (resolver : Resolver) (reference : SymbolRef) : Except GenerationError Unit :=
  if resolver.isDeclared reference then .ok () else .error (.unknownSymbol reference)

def qualify (resolver : Resolver) (path : String) : Recording (Option String) :=
  if path = resolver.home then pure none
  else match resolver.aliases.alias? path with
    | none => .lift (.error (.unknownPackage path))
    | some qualifier => do
      Recording.recordImport path qualifier
      return some qualifier

def resolve (resolver : Resolver) (reference : SymbolRef) : Recording Symbol := do
  Recording.lift (resolver.require reference)
  let qualifier ← resolver.qualify reference.package
  let symbol : Symbol := ⟨reference,qualifier⟩
  Recording.report symbol.event
  return symbol

def resolveType (resolver : Resolver) (type : TypeDescriptor) : Recording String := do
  let symbol ← resolver.resolve ⟨type.name,.type⟩
  return symbol.text

end Resolver

end InformerGen
