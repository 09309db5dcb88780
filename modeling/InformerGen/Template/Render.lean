import InformerGen.Template
import InformerGen.Template.Context

/-! Rendering a template with the values that its placeholders are bound to. -/
namespace InformerGen.Template

def rejectSystem (placeholder : Placeholder) (fault : String → SystemFault) :
    Except GenerationError Unit :=
  match placeholder.system with
  | none => .ok ()
  | some system => .error (.invalidPlaceholder placeholder.source (fault system))

def renderValue (systems : NameSystems) (resolver : Resolver) (placeholder : Placeholder) :
    TemplateValue → Recording String
  | .literal text => do
    Recording.lift (rejectSystem placeholder .onLiteral)
    return text
  | .bool value => do
    Recording.lift (rejectSystem placeholder .onBoolean)
    return (if value then "true" else "false")
  | .symbol symbol =>
    match placeholder.system with
    | none => return symbol.text
    | some system =>
      if system = NameSystems.rawId then return symbol.text
      else .lift (.error (.invalidPlaceholder placeholder.source (.onSymbol system)))
  | .type type =>
    match placeholder.system with
    | none => resolver.resolveType type
    | some system =>
      if system = NameSystems.rawId then resolver.resolveType type
      else match systems.name? system type with
        | some name => return name
        | none => .lift (.error (.unknownNameSystem placeholder.source system))

def renderSegment (context : TemplateContext) (systems : NameSystems) (resolver : Resolver) :
    Segment → Recording String
  | .text text => return text
  | .placeholder placeholder =>
    match context.get? placeholder.name with
    | some value => renderValue systems resolver placeholder value
    | none => .lift (.error (.missingPlaceholder placeholder.name))

def renderSegments (context : TemplateContext) (systems : NameSystems) (resolver : Resolver) :
    List Segment → Recording String
  | [] => return ""
  | segment::rest => do
    let text ← renderSegment context systems resolver segment
    let more ← renderSegments context systems resolver rest
    return text ++ more

/-- Renders a template once every placeholder is known to be bound. -/
def render (template : Template) (context : TemplateContext) (systems : NameSystems)
    (resolver : Resolver) : Recording String :=
  match template.placeholders.find? fun placeholder => !context.contains placeholder.name with
  | some missing => .lift (.error (.missingPlaceholder missing.name))
  | none => renderSegments context systems resolver template.segments

end InformerGen.Template
