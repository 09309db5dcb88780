import InformerGen.Informer
import InformerGen.Sink
import InformerGen.Template.Render

/-!
The generator of the file for one type. It passes over other types, and gathers the imports of the
files that it has delivered.
-/
namespace InformerGen

inductive GeneratorPhase where
  | filtering
  | binding
  | rendering
deriving DecidableEq, Repr

namespace GeneratorPhase

def all : List GeneratorPhase := [filtering,binding,rendering]

def text : GeneratorPhase → String
  | filtering => "filtering"
  | binding => "binding"
  | rendering => "rendering"

end GeneratorPhase

structure Generated where
  text : String
  imports : List String
deriving DecidableEq, Repr

structure InformerGenerator where
  known : Universe
  config : GeneratorConfig
  target : Name
  aliases : AliasTable
  /-- The imports of all that has been delivered. -/
  imports : ImportTracker
deriving DecidableEq

structure Outcome (α : Type) where
  result : Except GenerationError α
  events : List Event
  next : InformerGenerator

namespace InformerGenerator

def create (known : Universe) (config : GeneratorConfig) (target : Name) : InformerGenerator :=
  ⟨known,config,target,Informer.aliasTable known config.packages [config.outputPackage],.empty⟩

/-- Makes a generator, its own aliases first. There is none where the search for these goes on for
ever, even if others are to take their place. -/
def create? (known : Universe) (config : GeneratorConfig) (target : Name) :
    Option InformerGenerator := do
  let aliases ← Informer.aliasTable? known config.packages [config.outputPackage]
  return ⟨known,config,target,aliases,.empty⟩

def withAliases (generator : InformerGenerator) (aliases : AliasTable) : InformerGenerator :=
  { generator with aliases }

def systems (generator : InformerGenerator) : NameSystems :=
  NameSystems.ofTables generator.config.naming

def resolver (generator : InformerGenerator) : Resolver :=
  ⟨generator.known,generator.config.outputPackage,generator.aliases⟩

def applies (generator : InformerGenerator) (type : TypeDescriptor) : Bool :=
  type.name == generator.target

def enter (message : String) (type : TypeDescriptor) (phase : GeneratorPhase) : Event :=
  ⟨.debug,message,[("ty",type.name.text),("phase",phase.text)]⟩

def readTags (type : TypeDescriptor) : Recording TagSet :=
  match TagSet.parse type.lines with
  | .error error => .lift (.error (.malformedTag error))
  | .ok tags => do
    Recording.reportAll (TagSet.warnings type.lines)
    return tags

def compose (generator : InformerGenerator) (type : TypeDescriptor) : Recording String := do
  Recording.report (enter "binding template" type .binding)
  let tags ← readTags type
  let context ← Informer.bind generator.config generator.resolver type tags
  Recording.report
    ⟨.trace,"template context",[("ty",type.name.text),("context",context.toJson.render)]⟩
  Recording.report (enter "rendering template" type .rendering)
  let template ← Recording.lift (Template.parse Informer.templateText)
  template.render context generator.systems generator.resolver

def prepare (generator : InformerGenerator) (type : TypeDescriptor) :
    Except GenerationError (Option (Generated × ImportTracker)) × List Event :=
  let filtering := enter "processing type" type .filtering
  if generator.applies type then
    let (result,trail) := generator.compose type .empty
    match result with
    | .error error =>
      (.error error,filtering::trail.events ++
        [⟨.debug,"generation failed",[("ty",type.name.text),("error",error.message)]⟩])
    | .ok text =>
      match generator.imports.merge trail.imports with
      | (.error error,_) => (.error (.imports error),filtering::trail.events)
      | (.ok (),merged) =>
        (.ok (some (⟨text,trail.imports.lines⟩,merged)),filtering::trail.events)
  else (.ok none,[filtering])

def generate (generator : InformerGenerator) (type : TypeDescriptor) :
    Outcome (Option Generated) :=
  match generator.prepare type with
  | (.error error,events) => ⟨.error error,events,generator⟩
  | (.ok none,events) => ⟨.ok none,events,generator⟩
  | (.ok (some (generated,merged)),events) =>
    ⟨.ok (some generated),events,{ generator with imports := merged }⟩

/-- Generates for a type into a sink. The imports count once all has been written. The result tells
whether the type was the target. -/
def write (generator : InformerGenerator) (type : TypeDescriptor) (sink : Sink) :
    Outcome Bool × Delivery :=
  match generator.prepare type with
  | (.error error,events) => (⟨.error error,events,generator⟩,⟨[],false⟩)
  | (.ok none,events) => (⟨.ok false,events,generator⟩,⟨[],true⟩)
  | (.ok (some (generated,merged)),events) =>
    let delivery := sink.deliver generated.text.toUTF8.toList
    if delivery.complete then
      (⟨.ok true,events,{ generator with imports := merged }⟩,delivery)
    else (⟨.error .unwritten,events,generator⟩,delivery)

end InformerGenerator

end InformerGen
