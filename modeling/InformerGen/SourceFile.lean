import InformerGen.Identifier
import InformerGen.Layout

/-! Go source files: a header, the package clause, the imports and the declarations. -/
namespace InformerGen

structure SourceFile where
  package : String
  imports : List String
  body : String
deriving DecidableEq, Repr

namespace SourceFile

def header : String := "Code generated by injgen. DO NOT EDIT."

/-- The package clause names a package after the last segment of its path. -/
def packageOfPath (path : String) : String := Identifier.packageName (Text.lastPiece '/' path)

def preamble (file : SourceFile) : List LayoutStep := [
  .comment header,
  .blank,
  .line ("package " ++ file.package),
  .blank,
  .onlyIf (!file.imports.isEmpty) [
    .block "import (" ")" [.each (file.imports.map fun line => [.line line])],
    .blank]]

def dropLeadingNewlines (text : String) : String :=
  String.ofList (text.toList.dropWhile (· == '\n'))

def endLine (text : String) : String :=
  if text.toList.getLast? = some '\n' then text else text ++ "\n"

def render (file : SourceFile) : String :=
  let top := Layout.runSteps .empty file.preamble
  endLine (top.append (dropLeadingNewlines file.body)).text

end SourceFile

end InformerGen
