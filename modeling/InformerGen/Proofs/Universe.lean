import InformerGen.Manifest
import InformerGen.Proofs.OrderedMap
import Mathlib.Data.String.Basic

/-! In the universe of a manifest every package stands at its own path and every type at its own
name. So a type is found by its name, and the list of all types is in strict order by package and
then by name. -/
namespace InformerGen

namespace OrderedMap

universe u

variable {β : Type u} {map : OrderedMap β} {fits : String → β → Prop}

def Each (map : OrderedMap β) (fits : String → β → Prop) : Prop :=
  ∀ key value, map.get? key = some value → fits key value

theorem each_empty : (empty : OrderedMap β).Each fits := by
  intro key value found
  rw [get?_empty] at found
  cases found

theorem Each.insert (each : map.Each fits) {key : String} {value : β} (suited : fits key value) :
    (map.insert key value).Each fits := by
  intro other found known
  rw [get?_insert] at known
  split at known
  next same =>
    cases known
    exact same ▸ suited
  next => exact each other found known

theorem pairwise_values {order : β → β → Prop}
    (ordered : map.entries.Pairwise fun first second => order first.2 second.2) :
    map.values.Pairwise order :=
  List.pairwise_map.mpr ordered

end OrderedMap

namespace Name

theorem order_eq_lt_iff {first second : Name} : first.order second = .lt ↔
    first.package < second.package ∨
      first.package = second.package ∧ first.name < second.name := by
  rw [order,Ordering.then_eq_lt,compare_lt_iff_lt,compare_lt_iff_lt,compare_eq_iff_eq]

end Name

namespace Package

def Named (package : Package) : Prop :=
  package.types.Each fun name type => type.name = ⟨package.path,name⟩

theorem foldl_declareType (package : Package) (entries : List TypeEntry) :
    (entries.map (·.toDescriptor package.path)).foldl declareType package =
      { package with
        types := List.foldl (fun map entry => map.insert entry.1 entry.2) package.types
          (entries.map fun entry => (entry.name,entry.toDescriptor package.path)) } := by
  induction entries generalizing package with
  | nil => rfl
  | cons entry rest ih => exact ih (package.declareType (entry.toDescriptor package.path))

theorem foldl_declareFunction (package : Package) (names : List String) :
    names.foldl declareFunction package =
      { package with
        functions := List.foldl (fun map entry => map.insert entry.1 entry.2) package.functions
          (names.map (·,())) } := by
  induction names generalizing package with
  | nil => rfl
  | cons name rest ih => exact ih (package.declareFunction name)

theorem foldl_declareVariable (package : Package) (names : List String) :
    names.foldl declareVariable package =
      { package with
        vars := List.foldl (fun map entry => map.insert entry.1 entry.2) package.vars
          (names.map (·,())) } := by
  induction names generalizing package with
  | nil => rfl
  | cons name rest ih => exact ih (package.declareVariable name)

theorem toPackage_eq (entry : PackageEntry) : entry.toPackage =
    ⟨entry.path,
      .ofList (entry.types.map fun type => (type.name,type.toDescriptor entry.path)),
      .ofTexts entry.functions,.ofTexts entry.vars⟩ := by
  have typed : (entry.types.map (·.toDescriptor entry.path)).foldl declareType (bare entry.path) = _ :=
    foldl_declareType (bare entry.path) entry.types
  rw [PackageEntry.toPackage,foldl_declareVariable,foldl_declareFunction,typed]
  rfl

theorem named_toPackage (entry : PackageEntry) : entry.toPackage.Named := by
  rw [toPackage_eq]
  intro name type found
  obtain ⟨declared,_,same⟩ := List.mem_map.mp (OrderedMap.mem_of_get?_ofList found)
  obtain ⟨rfl,rfl⟩ := Prod.mk.inj same
  rfl

end Package

namespace Universe

/-- Every package stands at its own path, and every type at its own name. -/
def Named (known : Universe) : Prop :=
  known.packages.Each fun path package => package.path = path ∧ package.Named

variable {known : Universe}

theorem Named.insert (named : known.Named) {package : Package} (own : package.Named) :
    (known.insert package).Named :=
  OrderedMap.Each.insert named ⟨rfl,own⟩

theorem Named.foldl_insert (named : known.Named) {packages : List Package}
    (each : ∀ package ∈ packages, package.Named) : (packages.foldl Universe.insert known).Named := by
  induction packages generalizing known with
  | nil => exact named
  | cons package rest ih =>
    obtain ⟨first,others⟩ := List.forall_mem_cons.mp each
    exact ih (named.insert first) others

theorem named_ofManifest (manifest : Manifest) : manifest.known.Named := by
  apply Named.foldl_insert OrderedMap.each_empty
  intro package member
  obtain ⟨entry,_,rfl⟩ := List.mem_map.mp member
  exact Package.named_toPackage entry

theorem foldl_insert_toPackage (known : Universe) (entries : List PackageEntry) :
    (entries.map PackageEntry.toPackage).foldl insert known =
      ⟨List.foldl (fun map entry => map.insert entry.1 entry.2) known.packages
        (entries.map fun entry => (entry.path,entry.toPackage))⟩ := by
  induction entries generalizing known with
  | nil => rfl
  | cons entry rest ih =>
    have path : entry.toPackage.path = entry.path := by rw [Package.toPackage_eq]
    rw [List.map_cons,List.map_cons,List.foldl_cons,List.foldl_cons,ih,insert,path]

theorem ofManifest_eq (manifest : Manifest) : manifest.known =
    ⟨.ofList (manifest.declared.map fun entry => (entry.path,entry.toPackage))⟩ :=
  foldl_insert_toPackage empty manifest.declared

theorem type?_eq_some_iff {name : Name} {type : TypeDescriptor} :
    known.type? name = some type ↔
      ∃ package, known.packages.get? name.package = some package ∧
        package.types.get? name.name = some type :=
  Option.bind_eq_some_iff

theorem exists_of_type?_ofManifest {manifest : Manifest} {name : Name} {type : TypeDescriptor}
    (found : manifest.known.type? name = some type) :
    ∃ package ∈ manifest.declared, ∃ entry ∈ package.types,
      name = ⟨package.path,entry.name⟩ ∧ type = entry.toDescriptor package.path := by
  obtain ⟨package,atPath,atName⟩ := type?_eq_some_iff.mp found
  rw [ofManifest_eq] at atPath
  obtain ⟨listed,member,same⟩ := List.mem_map.mp (OrderedMap.mem_of_get?_ofList atPath)
  obtain ⟨path,rfl⟩ := Prod.mk.inj same
  rw [Package.toPackage_eq] at atName
  obtain ⟨entry,inside,named⟩ := List.mem_map.mp (OrderedMap.mem_of_get?_ofList atName)
  obtain ⟨same,rfl⟩ := Prod.mk.inj named
  refine ⟨listed,member,entry,inside,?_,rfl⟩
  cases name
  cases path
  cases same
  rfl

theorem Named.name_of_type? (named : known.Named) {name : Name} {type : TypeDescriptor}
    (found : known.type? name = some type) : type.name = name := by
  obtain ⟨package,atPath,atName⟩ := type?_eq_some_iff.mp found
  obtain ⟨path,own⟩ := named _ _ atPath
  rw [own _ _ atName,path]

theorem Named.types_ascending (named : known.Named) :
    known.types.Pairwise fun first second => first.name.order second.name = .lt := by
  refine List.pairwise_flatMap.mpr ⟨?_,?_⟩
  · intro declared member
    obtain ⟨⟨path,package⟩,inside,rfl⟩ := List.mem_map.mp member
    obtain ⟨_,own⟩ := named _ _ ((known.packages.mem_entries_iff _ _).mp inside)
    apply OrderedMap.pairwise_values
    refine package.types.ascending.imp_of_mem fun {first second} left right less => ?_
    rw [own _ _ ((package.types.mem_entries_iff _ _).mp left),
      own _ _ ((package.types.mem_entries_iff _ _).mp right)]
    exact Name.order_eq_lt_iff.mpr (.inr ⟨rfl,less⟩)
  · apply OrderedMap.pairwise_values
    refine known.packages.ascending.imp_of_mem fun {first second} left right less => ?_
    obtain ⟨path,own⟩ := named _ _ ((known.packages.mem_entries_iff _ _).mp left)
    obtain ⟨otherPath,otherOwn⟩ := named _ _ ((known.packages.mem_entries_iff _ _).mp right)
    intro type member other otherMember
    obtain ⟨entry,inside,rfl⟩ := List.mem_map.mp member
    obtain ⟨otherEntry,otherInside,rfl⟩ := List.mem_map.mp otherMember
    rw [own _ _ ((first.2.types.mem_entries_iff _ _).mp inside),
      otherOwn _ _ ((second.2.types.mem_entries_iff _ _).mp otherInside)]
    apply Name.order_eq_lt_iff.mpr
    rw [path,otherPath]
    exact .inl less

end Universe

end InformerGen
