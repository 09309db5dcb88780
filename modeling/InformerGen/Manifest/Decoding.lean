import InformerGen.Manifest
import InformerGen.Toml

/-! Manifests as TOML tables. -/
namespace InformerGen

namespace Toml

def required {α : Type} (read : Toml → Option α) (field : Option Toml) : Option α := field.bind read

def optional {α : Type} (read : Toml → Option α) (default : α) : Option Toml → Option α
  | none => some default
  | some value => read value

def list? {α : Type} (read : Toml → Option α) (value : Toml) : Option (List α) :=
  value.items?.bind fun items => items.mapM read

end Toml

open Toml

def GroupVersion.ofToml? (value : Toml) : Option GroupVersion :=
  match value.record? ["name","version","go-name"] with
  | some [name,version,goName] => do
    return {
      name := ← required text? name
      version := ← required text? version
      goName := ← optional (fun value => value.text?.map some) none goName }
  | _ => none

def PackagePaths.ofToml? (value : Toml) : Option PackagePaths :=
  match value.record? ["clientset","typed-informers","factory","internal-interfaces","injection",
    "controller"] with
  | some [clientset,typedInformers,factory,internalInterfaces,injection,controller] => do
    return {
      clientset := ← required text? clientset
      typedInformers := ← required text? typedInformers
      factory := ← required text? factory
      internalInterfaces := ← required text? internalInterfaces
      injection := ← optional text? PackagePaths.standardInjection injection
      controller := ← optional text? PackagePaths.standardController controller }
  | _ => none

def Toml.map? (value : Toml) : Option (OrderedMap String) := value.textFields?.map OrderedMap.ofList

def NamingTables.ofToml? (value : Toml) : Option NamingTables :=
  match value.record? ["plural-exceptions","exceptions"] with
  | some [irregular,exceptions] => do
    return {
      irregular := ← optional map? NamingTables.standardPlurals irregular
      exceptions := ← optional map? .empty exceptions }
  | _ => none

def TypeEntry.ofToml? (value : Toml) : Option TypeEntry :=
  match value.record? ["name","comments","parent-comments","members"] with
  | some [name,comments,parentComments,members] => do
    return {
      name := ← required text? name
      comments := ← optional texts? [] comments
      parentComments := ← optional texts? [] parentComments
      members := ← optional texts? [] members }
  | _ => none

def PackageEntry.ofToml? (value : Toml) : Option PackageEntry :=
  match value.record? ["path","types","functions","variables"] with
  | some [path,types,functions,vars] => do
    return {
      path := ← required text? path
      types := ← optional (list? TypeEntry.ofToml?) [] types
      functions := ← optional texts? [] functions
      vars := ← optional texts? [] vars }
  | _ => none

def PackageEntry.listOfToml? (value : Toml) : Option (List PackageEntry) :=
  match value.record? ["packages"] with
  | some [packages] => optional (list? PackageEntry.ofToml?) [] packages
  | _ => none

def Manifest.outputOfToml? (value : Toml) : Option String :=
  match value.record? ["package"] with
  | some [package] => required text? package
  | _ => none

def Manifest.ofToml? (value : Toml) : Option Manifest :=
  match value.record? ["output","group","packages","naming","universe"] with
  | some [output,group,packages,naming,declared] => do
    return {
      output := ← required Manifest.outputOfToml? output
      group := ← required GroupVersion.ofToml? group
      packages := ← required PackagePaths.ofToml? packages
      naming := ← optional NamingTables.ofToml? NamingTables.standard naming
      declared := ← optional PackageEntry.listOfToml? [] declared }
  | _ => none

end InformerGen
