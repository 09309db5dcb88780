import InformerGen.Manifest.Settings
import InformerGen.Universe

/-! Manifests: all that a run of the generator is told. -/
namespace InformerGen

structure TypeEntry where
  name : String
  comments : List String
  parentComments : List String
  members : List String
deriving DecidableEq, Repr

structure PackageEntry where
  path : String
  types : List TypeEntry
  functions : List String
  vars : List String
deriving DecidableEq, Repr

structure Manifest where
  /-- The path below which each type gets a package. -/
  output : String
  group : GroupVersion
  packages : PackagePaths
  naming : NamingTables
  declared : List PackageEntry
deriving DecidableEq

namespace TypeEntry

def toDescriptor (path : String) (entry : TypeEntry) : TypeDescriptor :=
  ⟨⟨path,entry.name⟩,entry.comments,entry.parentComments,entry.members⟩

end TypeEntry

namespace PackageEntry

def toPackage (entry : PackageEntry) : Package :=
  let withTypes := (entry.types.map (·.toDescriptor entry.path)).foldl Package.declareType
    (.bare entry.path)
  let withFunctions := entry.functions.foldl Package.declareFunction withTypes
  entry.vars.foldl Package.declareVariable withFunctions

end PackageEntry

namespace Manifest

def known (manifest : Manifest) : Universe :=
  Universe.ofPackages (manifest.declared.map PackageEntry.toPackage)

def packageFor (manifest : Manifest) (name : Name) : String :=
  outputPackage manifest.output name.name

end Manifest

end InformerGen
