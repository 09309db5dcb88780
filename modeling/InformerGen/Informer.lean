import InformerGen.Manifest.Settings
import InformerGen.Template.Context

/-! The file generated for one type: its template and what the placeholders stand for. -/
namespace InformerGen

structure GeneratorConfig where
  outputPackage : String
  group : GroupVersion
  packages : PackagePaths
  naming : NamingTables
deriving DecidableEq

namespace Informer

def slot (name : String) : String := "\x7b\x7b." ++ name ++ "\x7d\x7d"

/-- The lines of the template. The file registers its informer when it is initialised, stores it in
the context under a key of its own, and gets it back from there. -/
def templateLines : List String := [
  "func init() \x7b",
  "\t" ++ slot "injectionRegisterInformer" ++ "(withInformer)",
  "\x7d",
  "",
  "// key is used as the context key for the informer.",
  "type key struct\x7b\x7d",
  "",
  "func withInformer(ctx " ++ slot "contextContext" ++ ") (" ++ slot "contextContext" ++ ", " ++
    slot "controllerInformer" ++ ") \x7b",
  "\tf := " ++ slot "factoryGet" ++ "(ctx)",
  "\tinf := f." ++ slot "group" ++ "()." ++ slot "version" ++ "()." ++
    slot "type|publicPlural" ++ "()",
  "\treturn " ++ slot "contextWithValue" ++ "(ctx, key\x7b\x7d, inf), inf.Informer()",
  "\x7d",
  "",
  "// Namespaced reports whether " ++ slot "type|resource" ++ " live in a namespace.",
  "const Namespaced = " ++ slot "namespaced",
  "",
  "// Get extracts the " ++ slot "typeName" ++ " informer from the context.",
  "func Get(ctx " ++ slot "contextContext" ++ ") " ++ slot "informersTypedInformer" ++ " \x7b",
  "\tinf, _ := ctx.Value(key\x7b\x7d).(" ++ slot "informersTypedInformer" ++ ")",
  "\treturn inf",
  "\x7d"]

def templateText : String := String.join (templateLines.map (· ++ "\n"))

/-- The identifiers that the template declares or uses without a qualifier. No alias may hide one. -/
def templateLocals : List String :=
  ["f","inf","ctx","key","init","withInformer","Get","Namespaced","nil","true","false"]

def aliasedPaths (known : Universe) (packages : PackagePaths) (outputs : List String) :
    List String :=
  known.paths ++ packages.entries.map (·.2) ++ Resolver.prelude.map (·.package) ++ outputs

def aliasTable (known : Universe) (packages : PackagePaths) (outputs : List String) : AliasTable :=
  AliasTable.build (aliasedPaths known packages outputs) templateLocals

def aliasTable? (known : Universe) (packages : PackagePaths) (outputs : List String) :
    Option AliasTable :=
  AliasTable.build? (aliasedPaths known packages outputs) templateLocals

/-- What generated code relies on without naming it. -/
def requirements (packages : PackagePaths) : List SymbolRef := [
  .ofType packages.clientset "Interface",
  .ofType packages.internalInterfaces "SharedInformerFactory"]

def references (packages : PackagePaths) (typeName : String) : List (String × SymbolRef) := [
  ("injectionRegisterInformer",.ofFunction packages.injection "RegisterInformer"),
  ("controllerInformer",.ofType packages.controller "Informer"),
  ("contextContext",.ofType "context" "Context"),
  ("contextWithValue",.ofFunction "context" "WithValue"),
  ("factoryGet",.ofFunction packages.factory "Get"),
  ("informersTypedInformer",.ofType packages.typedInformers (typeName ++ "Informer"))]

def plainValues (config : GeneratorConfig) (type : TypeDescriptor) (tags : TagSet) :
    List (String × TemplateValue) := [
  ("group",.literal config.group.groupGoName),
  ("version",.literal config.group.versionGoName),
  ("typeName",.literal (Text.capitalize type.name.name)),
  ("namespaced",.bool tags.namespaced),
  ("type",.type type)]

def requireAll (resolver : Resolver) : List SymbolRef → Except GenerationError Unit
  | [] => .ok ()
  | reference::rest => do
    resolver.require reference
    requireAll resolver rest

def resolveAll (resolver : Resolver) :
    List (String × SymbolRef) → Recording (List (String × TemplateValue))
  | [] => return []
  | (placeholder,reference)::rest => do
    let symbol ← resolver.resolve reference
    let others ← resolveAll resolver rest
    return (placeholder,.symbol symbol)::others

def bind (config : GeneratorConfig) (resolver : Resolver) (type : TypeDescriptor) (tags : TagSet) :
    Recording TemplateContext := do
  Recording.lift (requireAll resolver (requirements config.packages))
  let symbols ← resolveAll resolver (references config.packages type.name.name)
  return Bindings.ofList (symbols ++ plainValues config type tags)

end Informer

end InformerGen
