import InformerGen.Bindings
import InformerGen.Json.Universe
import InformerGen.Resolver

/-! The values that a template's placeholders are bound to. -/
namespace InformerGen

inductive TemplateValue where
  | symbol (symbol : Symbol)
  | literal (text : String)
  | bool (value : Bool)
  | type (type : TypeDescriptor)
deriving DecidableEq

namespace Symbol

def toJson (symbol : Symbol) : Json :=
  .object [
    ("reference",.object [
      ("name",symbol.reference.name.toJson),
      ("kind",.string symbol.reference.kind.text)]),
    ("alias",(symbol.qualifier.map Json.string).getD .null)]

end Symbol

namespace TemplateValue

def toJson : TemplateValue → Json
  | symbol resolved => .object [("kind",.string "symbol"),("value",resolved.toJson)]
  | literal text => .object [("kind",.string "literal"),("value",.string text)]
  | bool value => .object [("kind",.string "bool"),("value",.bool value)]
  | type described => .object [("kind",.string "type"),("value",described.toJson)]

end TemplateValue

abbrev TemplateContext := Bindings TemplateValue

namespace TemplateContext

def toJson (context : TemplateContext) : Json :=
  .object (context.entries.map fun entry => (entry.1,entry.2.toJson))

end TemplateContext

end InformerGen
