import InformerGen.Proofs.Manifest
import InformerGen.Proofs.Universe
import Mathlib.Control.Monad.Basic
import Mathlib.Data.List.Perm.Basic

/-! The universe of an accepted manifest has what its packages declare, and nothing else. Packages and
types are put into maps, where a later one would take the place of an earlier one of the same name. The
rules that the manifest keeps leave no two of the same name. -/
namespace InformerGen

def PackageEntry.listed (entry : PackageEntry) : SymbolKind → List String
  | .type => entry.types.map (·.name)
  | .function => entry.functions
  | .var => entry.vars

namespace Universe

/-- A universe with what the entries declare. Each of them is one package, and each of their types
one of the types. -/
structure Holds (known : Universe) (entries : List PackageEntry) : Prop where
  paths : known.paths.Perm (entries.map (·.path))
  packages : known.packages.values.Perm (entries.map (·.toPackage))
  symbols : ∀ symbol, known.declares symbol = true ↔
    ∃ entry ∈ entries, entry.path = symbol.package ∧ symbol.name.name ∈ entry.listed symbol.kind
  types : known.types.Perm (entries.flatMap fun entry => entry.types.map (·.toDescriptor entry.path))
  described : ∀ name type, known.type? name = some type ↔
    ∃ entry ∈ entries, ∃ declared ∈ entry.types, name = ⟨entry.path,declared.name⟩ ∧
      type = ⟨name,declared.comments,declared.parentComments,declared.members⟩

end Universe

namespace Package

theorem declares_toPackage {entry : PackageEntry} {name : String} {kind : SymbolKind} :
    entry.toPackage.declares name kind = true ↔ name ∈ entry.listed kind := by
  rw [toPackage_eq]
  cases kind <;>
    simp [declares,PackageEntry.listed,OrderedMap.contains,OrderedMap.isSome_get?_ofList,
      OrderedSet.ofTexts]

theorem values_toPackage {entry : PackageEntry} (distinct : (entry.types.map (·.name)).Nodup) :
    entry.toPackage.types.values.Perm (entry.types.map (·.toDescriptor entry.path)) := by
  rw [toPackage_eq]
  have keys : ((entry.types.map fun type => (type.name,type.toDescriptor entry.path)).map (·.1)).Nodup := by
    rwa [List.map_map]
  have permuted := (OrderedMap.entries_ofList_perm keys).map (·.2)
  rwa [List.map_map] at permuted

theorem get?_toPackage {entry : PackageEntry} (distinct : (entry.types.map (·.name)).Nodup)
    {name : String} {type : TypeDescriptor} : entry.toPackage.types.get? name = some type ↔
      ∃ declared ∈ entry.types, declared.name = name ∧ declared.toDescriptor entry.path = type := by
  rw [toPackage_eq,OrderedMap.get?_ofList_eq_some_iff (by rwa [List.map_map])]
  simp

end Package

namespace Manifest

variable {manifest : Manifest}

theorem Kept.packages_perm (kept : manifest.Kept) : manifest.known.packages.entries.Perm
    (manifest.declared.map fun entry => (entry.path,entry.toPackage)) := by
  rw [Universe.ofManifest_eq]
  apply OrderedMap.entries_ofList_perm
  rw [List.map_map]
  exact kept.paths_nodup

theorem Kept.package?_eq_some_iff (kept : manifest.Kept) {path : String} {package : Package} :
    manifest.known.package? path = some package ↔
      ∃ entry ∈ manifest.declared, entry.path = path ∧ entry.toPackage = package := by
  rw [Universe.package?,← OrderedMap.mem_entries_iff,kept.packages_perm.mem_iff]
  simp

theorem Kept.values_perm (kept : manifest.Kept) : manifest.known.packages.values.Perm
    (manifest.declared.map (·.toPackage)) := by
  have permuted := kept.packages_perm.map (·.2)
  rwa [List.map_map] at permuted

theorem Kept.types_perm (kept : manifest.Kept) : manifest.known.types.Perm
    (manifest.declared.flatMap fun entry => entry.types.map (·.toDescriptor entry.path)) := by
  refine (kept.values_perm.flatMap_right _).trans ?_
  rw [List.flatMap_map]
  exact List.Perm.flatMap_left _ fun entry member =>
    Package.values_toPackage (kept.wellFormed entry member).distinct

theorem Kept.declares_iff (kept : manifest.Kept) (symbol : SymbolRef) :
    manifest.known.declares symbol = true ↔ ∃ entry ∈ manifest.declared,
      entry.path = symbol.package ∧ symbol.name.name ∈ entry.listed symbol.kind := by
  rw [Universe.declares,Option.any_eq_true]
  constructor
  · intro known
    obtain ⟨package,found,declared⟩ := known
    obtain ⟨entry,member,path,rfl⟩ := kept.package?_eq_some_iff.mp found
    exact ⟨entry,member,path,Package.declares_toPackage.mp declared⟩
  · intro known
    obtain ⟨entry,member,path,listed⟩ := known
    exact ⟨_,kept.package?_eq_some_iff.mpr ⟨entry,member,path,rfl⟩,
      Package.declares_toPackage.mpr listed⟩

theorem Kept.type?_eq_some_iff (kept : manifest.Kept) (name : Name) (type : TypeDescriptor) :
    manifest.known.type? name = some type ↔
      ∃ entry ∈ manifest.declared, ∃ declared ∈ entry.types, name = ⟨entry.path,declared.name⟩ ∧
        type = ⟨name,declared.comments,declared.parentComments,declared.members⟩ := by
  constructor
  · intro found
    obtain ⟨entry,member,declared,inside,rfl,rfl⟩ := Universe.exists_of_type?_ofManifest found
    exact ⟨entry,member,declared,inside,rfl,rfl⟩
  · intro known
    obtain ⟨entry,member,declared,inside,rfl,rfl⟩ := known
    have package := kept.package?_eq_some_iff.mpr ⟨entry,member,rfl,rfl⟩
    have distinct := (kept.wellFormed entry member).distinct
    exact Universe.type?_eq_some_iff.mpr
      ⟨_,package,(Package.get?_toPackage distinct).mpr ⟨declared,inside,rfl,rfl⟩⟩

/-- The universe of an accepted manifest has one package for each that is declared, with the symbols
that the package lists, and its types as they are described there. -/
theorem known_holds_declared (accepted : manifest.check = .ok ()) :
    manifest.known.Holds manifest.declared := by
  have kept := check_eq_ok_iff.mp accepted
  have paths := kept.packages_perm.map (·.1)
  rw [List.map_map] at paths
  exact ⟨paths,kept.values_perm,kept.declares_iff,kept.types_perm,kept.type?_eq_some_iff⟩

/-- Two packages with types of one name, of which each keeps its own comments. -/
theorem equal_names_kept_apart :
    let manifest : Manifest := ⟨"o",⟨"g","v",none⟩,⟨"c","c","c","c","c","c"⟩,.standard,
      [⟨"q",[⟨"T",["b","a"],["d","c"],["N","M"]⟩],["F","F"],[]⟩,⟨"p",[⟨"T",[],[],[]⟩],[],["F"]⟩]⟩
    manifest.check = .ok () ∧ manifest.known.paths.Perm ["q","p"] ∧
      manifest.known.type? ⟨"q","T"⟩ = some ⟨⟨"q","T"⟩,["b","a"],["d","c"],["N","M"]⟩ ∧
      manifest.known.type? ⟨"p","T"⟩ = some (.plain "p" "T") ∧
      manifest.known.declares ⟨⟨"p","F"⟩,.var⟩ = true ∧
      ¬manifest.known.declares ⟨⟨"p","F"⟩,.function⟩ = true := by
  intro manifest
  have accepted : manifest.check = .ok () := by decide +kernel
  have holds := known_holds_declared accepted
  refine ⟨accepted,holds.paths,?_,?_,?_,?_⟩
  · exact (holds.described _ _).mpr ⟨_,.head _,_,.head _,rfl,rfl⟩
  · exact (holds.described _ _).mpr ⟨_,.tail _ (.head _),_,.head _,rfl,rfl⟩
  · exact (holds.symbols _).mpr ⟨_,.tail _ (.head _),rfl,.head _⟩
  · rw [holds.symbols]
    decide +kernel

end Manifest

end InformerGen
