import InformerGen.Generator
import InformerGen.Manifest.Validation
import InformerGen.SourceFile

/-!
Sessions: a manifest with its universe and one table of aliases, from which the files for its types
are generated. Since all files share the aliases, no two of them import a package differently.
-/
namespace InformerGen

structure InformerFile where
  type : Name
  package : String
  body : String
  imports : List String
  source : String
deriving DecidableEq, Repr

namespace InformerFile

def fileName (file : InformerFile) : String := Text.lowercase file.type.name ++ ".go"

end InformerFile

inductive SessionError where
  | load (path : String) (error : ManifestError)
  | invalidTags (type : Name) (error : TagError)
  | undeclared (type : Name)
  | generation (type : Name) (error : GenerationError)
  /-- The generator took the type for one that is not its target. -/
  | notAccepted
  | sharedPackage (earlier later : Name) (package : String)
deriving DecidableEq, Repr

namespace SessionError

/-- What failed, then what lies behind it. -/
def chain : SessionError → List String
  | load path error => ("failed to load " ++ path)::error.chain
  | invalidTags type error =>
    ["invalid tags on " ++ type.text,(GenerationError.malformedTag error).message]
  | undeclared type =>
    ["cannot generate " ++ type.text,"type is not declared in the universe"]
  | generation type error =>
    ["failed to generate informer for " ++ type.text,error.message]
  | notAccepted => ["generator did not accept its own target"]
  | sharedPackage earlier later package =>
    [earlier.text ++ " and " ++ later.text ++ " would both be generated into " ++ package]

def generationError? : SessionError → Option GenerationError
  | invalidTags _ error => some (.malformedTag error)
  | generation _ error => some error
  | _ => none

def manifestError? : SessionError → Option ManifestError
  | load _ error => some error
  | _ => none

end SessionError

/-- What an operation comes to. One that waits for a search without an end comes to nothing. -/
inductive SessionResult (α : Type) where
  | ok (value : α)
  | error (error : SessionError)
  | endless
deriving DecidableEq, Repr

structure Reported (α : Type) where
  result : SessionResult α
  events : List Event

namespace Reported

def after {α : Type} (events : List Event) (reported : Reported α) : Reported α :=
  { reported with events := events ++ reported.events }

def bind {α β : Type} (first : Reported α) (next : α → Reported β) : Reported β :=
  match first.result with
  | .error error => ⟨.error error,first.events⟩
  | .endless => ⟨.endless,first.events⟩
  | .ok value => (next value).after first.events

instance : Monad Reported where
  pure value := ⟨.ok value,[]⟩
  bind := bind

def fail {α : Type} (error : SessionError) : Reported α := ⟨.error error,[]⟩

def report (events : List Event) : Reported Unit := ⟨.ok (),events⟩

end Reported

structure Session where
  manifest : Manifest
  known : Universe
  aliases : AliasTable
deriving DecidableEq

namespace Session

/-- A type takes part in the generation when its directives can be read and say so. -/
def takesPart (type : TypeDescriptor) : Bool :=
  match TagSet.parse type.lines with
  | .ok tags => tags.generateClient
  | .error _ => false

def outputs (manifest : Manifest) (known : Universe) : List String :=
  (known.types.filter takesPart).map fun type => manifest.packageFor type.name

def ofManifest (manifest : Manifest) : Session :=
  let known := manifest.known
  ⟨manifest,known,Informer.aliasTable known manifest.packages (outputs manifest known)⟩

/-- Makes the session on a manifest. There is none where the search for its aliases goes on for ever. -/
def build? (manifest : Manifest) : Option Session := do
  let known := manifest.known
  let aliases ← Informer.aliasTable? known manifest.packages (outputs manifest known)
  return ⟨manifest,known,aliases⟩

def setupEvents (session : Session) : List Event :=
  session.known.types.flatMap (fun type => TagSet.warnings type.lines) ++
    [⟨.debug,"session ready",[
      ("packages",toString session.known.packages.size),
      ("aliases",toString session.aliases.size)]⟩]

def load (path : String) (content : Except ReadFailure String) :
    Except SessionError (Option Session) :=
  match content with
  | .error failure => .error (.load path (.unreadable path failure))
  | .ok text =>
    match Manifest.parse ⟨path,text⟩ with
    | .error error => .error (.load path error)
    | .ok manifest => .ok (build? manifest)

def packageFor (session : Session) (name : Name) : String := session.manifest.packageFor name

def config (session : Session) (name : Name) : GeneratorConfig :=
  ⟨session.packageFor name,session.manifest.group,session.manifest.packages,
    session.manifest.naming⟩

def selectEligible : List TypeDescriptor → Reported (List TypeDescriptor)
  | [] => return []
  | type::rest =>
    match TagSet.parse type.lines with
    | .error error => .fail (.invalidTags type.name error)
    | .ok tags => do
      Reported.report (TagSet.warnings type.lines)
      let others ← selectEligible rest
      return if tags.generateClient then type::others else others

def eligible (session : Session) : Reported (List TypeDescriptor) :=
  selectEligible session.known.types

/-- The generator for a type, which first makes aliases of its own and then takes the session's. -/
def generator? (session : Session) (name : Name) : Option InformerGenerator := do
  let created ← InformerGenerator.create? session.known (session.config name) name
  return created.withAliases session.aliases

def assemble (name : Name) (package : String) (generated : Generated) : InformerFile :=
  { type := name
    package
    body := generated.text
    imports := generated.imports
    source :=
      (SourceFile.mk (SourceFile.packageOfPath package) generated.imports generated.text).render }

def generate (session : Session) (name : Name) : Reported InformerFile :=
  match session.known.type? name with
  | none => .fail (.undeclared name)
  | some type =>
    let package := session.packageFor name
    let start : Event :=
      ⟨.debug,"generating informer",[("ty",name.text),("package",package)]⟩
    match session.generator? name with
    | none => ⟨.endless,[start]⟩
    | some generator =>
      let outcome := generator.generate type
      let result := match outcome.result with
        | .error error => .error (.generation name error)
        | .ok none => .error .notAccepted
        | .ok (some generated) => .ok (assemble name package generated)
      ⟨result,start::outcome.events⟩

def rejectShared (session : Session) : List (String × Name) → List Name → Except SessionError Unit
  | _, [] => .ok ()
  | claimed, name::rest =>
    let package := session.packageFor name
    match claimed.lookup package with
    | some earlier => .error (.sharedPackage earlier name package)
    | none => rejectShared session ((package,name)::claimed) rest

def generateEach (session : Session) : List Name → Reported (List InformerFile)
  | [] => return []
  | name::rest => do
    let file ← session.generate name
    let files ← generateEach session rest
    return file::files

/-- Generates the files for all types that a client is wanted for. Nothing is generated when two of
them would share a package. -/
def generateAll (session : Session) : Reported (List InformerFile) := do
  let types ← session.eligible
  let names := types.map (·.name)
  match session.rejectShared [] names with
  | .error error => .fail error
  | .ok () => session.generateEach names

end Session

end InformerGen
