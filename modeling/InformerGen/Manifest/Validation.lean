import InformerGen.Manifest.Decoding
import InformerGen.Manifest.Diagnostic
import InformerGen.Toml.Reader

/-! The rules that a manifest keeps, and reading manifests that keep them. -/
namespace InformerGen

inductive Violation where
  | blankOutput
  /-- The group has neither a name nor a Go name. -/
  | unnamedGroup
  | groupGoName (name : String)
  | emptyVersion
  | versionGoName (version : String)
  | blankCollaborator (key : String)
  | blankPath
  | repeatedPath (path : String)
  | typeName (name : String)
  | repeatedType (path name : String)
deriving DecidableEq, Repr

namespace Violation

def problem : Violation → Problem
  | blankOutput => .validation "output package cannot be empty"
  | unnamedGroup => .validation "the core group has no name; set group.go-name explicitly"
  | groupGoName name => .invalidIdentifier name "group Go name"
  | emptyVersion => .validation "group version cannot be empty"
  | versionGoName version => .invalidIdentifier version "group version"
  | blankCollaborator key => .validation ("packages." ++ key ++ " cannot be empty")
  | blankPath => .validation "package path cannot be empty"
  | repeatedPath path => .duplicate "package" path
  | typeName name => .invalidIdentifier name "type name"
  | repeatedType path name => .duplicate ("type in '" ++ path ++ "'") name

def needle : Violation → String
  | blankOutput => "[output]"
  | unnamedGroup => "[group]"
  | groupGoName name => name
  | emptyVersion => "version"
  | versionGoName version => version
  | blankCollaborator key => key
  | blankPath => "path"
  | repeatedPath path => path
  | typeName name => name
  | repeatedType _ name => name

end Violation

namespace Manifest

def demand (kept : Bool) (violation : Violation) : Except Violation Unit :=
  if kept then .ok () else .error violation

def checkGroup (group : GroupVersion) : Except Violation Unit := do
  demand (group.name != "" || group.goName.isSome) .unnamedGroup
  demand (Identifier.isIdentifier group.groupGoName) (.groupGoName group.groupGoName)
  demand (group.version != "") .emptyVersion
  demand (Identifier.isIdentifier group.versionGoName) (.versionGoName group.version)

def checkTypes (path : String) : List String → List TypeEntry → Except Violation Unit
  | _, [] => .ok ()
  | seen, entry::rest => do
    demand (Identifier.isIdentifier entry.name) (.typeName entry.name)
    demand (!seen.contains entry.name) (.repeatedType path entry.name)
    checkTypes path (entry.name::seen) rest

def checkPackages : List String → List PackageEntry → Except Violation Unit
  | _, [] => .ok ()
  | seen, entry::rest => do
    demand (!Text.allBlank entry.path) .blankPath
    demand (!seen.contains entry.path) (.repeatedPath entry.path)
    checkTypes entry.path [] entry.types
    checkPackages (entry.path::seen) rest

def check (manifest : Manifest) : Except Violation Unit := do
  demand (!Text.allBlank manifest.output) .blankOutput
  checkGroup manifest.group
  manifest.packages.entries.forM fun entry =>
    demand (!Text.allBlank entry.2) (.blankCollaborator entry.1)
  checkPackages [] manifest.declared

def parse (source : ManifestSource) : Except ManifestError Manifest :=
  match (Toml.parse? source.text).bind Manifest.ofToml? with
  | none => .error (.malformed source.file)
  | some manifest =>
    match manifest.check with
    | .ok () => .ok manifest
    | .error violation => .error (source.tell violation.needle violation.problem)

def standardFile : String := "injgen.toml"

end Manifest

end InformerGen
