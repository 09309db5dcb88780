import InformerGen.Text.Blank
import InformerGen.Text.Cut

/-!
Directives: comment lines that open with a marker, as in `+genclient` and `+resourceName=routes`.
What follows the marker is a key, and after the first equals sign a value.
-/
namespace InformerGen

structure Directive where
  key : String
  value : String
  line : String
deriving DecidableEq, Repr

namespace Directive

def defaultMarker : String := "+"

def ofLine? (marker line : String) : Option Directive :=
  let trimmed := Text.trim line
  (marker.toList.isPrefixOf? trimmed.toList).map fun rest =>
    match Text.splitAtFirst '=' rest with
    | some (key,value) => ⟨String.ofList key,String.ofList value,trimmed⟩
    | none => ⟨String.ofList rest,"",trimmed⟩

def ofLines (marker : String) (lines : List String) : List Directive :=
  lines.filterMap (ofLine? marker)

def withKey (key : String) (directives : List Directive) : List Directive :=
  directives.filter (·.key == key)

/-- The last directive with a key, which overrides those before it. -/
def last? (key : String) (directives : List Directive) : Option Directive :=
  (withKey key directives).getLast?

def keys (directives : List Directive) : List String := (directives.map (·.key)).eraseDups

/-- Puts a directive behind those of its key, or opens a group for it behind all others. -/
def addToGroup (directive : Directive) :
    List (String × List Directive) → List (String × List Directive)
  | [] => [(directive.key,[directive])]
  | group::rest =>
    if group.1 = directive.key then (group.1,group.2 ++ [directive])::rest
    else group::addToGroup directive rest

def byKey (directives : List Directive) : List (String × List Directive) :=
  directives.foldl (fun groups directive => addToGroup directive groups) []

def lastValue? (key : String) (lines : List String) : Option String :=
  (last? key (ofLines defaultMarker lines)).map (·.value)

end Directive

end InformerGen
