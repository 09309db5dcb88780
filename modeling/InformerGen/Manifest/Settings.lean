import InformerGen.Identifier
import InformerGen.Naming.Systems

/-! The settings of a generation: the API group, the packages it works with, and where files go. -/
namespace InformerGen

structure GroupVersion where
  name : String
  version : String
  goName : Option String
deriving DecidableEq, Repr

namespace GroupVersion

/-- By default the Go name is made from the group's name up to its first dot. -/
def groupGoName (group : GroupVersion) : String :=
  match group.goName with
  | some name => name
  | none => Identifier.pascalCase ((Text.pieces '.' group.name).headD "")

def versionGoName (group : GroupVersion) : String := Text.capitalize group.version

end GroupVersion

structure PackagePaths where
  clientset : String
  typedInformers : String
  factory : String
  internalInterfaces : String
  injection : String
  controller : String
deriving DecidableEq, Repr

namespace PackagePaths

def standardInjection : String := "github.com/knative/pkg/injection"

def standardController : String := "github.com/knative/pkg/controller"

def entries (packages : PackagePaths) : List (String × String) := [
  ("clientset",packages.clientset),
  ("typed-informers",packages.typedInformers),
  ("factory",packages.factory),
  ("internal-interfaces",packages.internalInterfaces),
  ("injection",packages.injection),
  ("controller",packages.controller)]

end PackagePaths

def outputPackage (base typeName : String) : String :=
  String.ofList (base.toList.reverse.dropWhile (· == '/')).reverse ++ "/" ++
    Identifier.packageName typeName

end InformerGen
