import InformerGen.Proofs.Universe

/-! Universes that packages are put into one after the other. A type belongs to the package that declares
it, whatever package it was described for, and a package takes the place of an earlier one at its path.
Therefore every type of such a universe is found by its own name and listed once. -/
namespace InformerGen

namespace Package

/-- The packages that come from bare ones by declarations. -/
inductive Made : Package → Prop
  | bare (path : String) : Made (bare path)
  | name {package : Package} (made : Made package) (name : String) :
      Made (package.declareName name)
  | type {package : Package} (made : Made package) (type : TypeDescriptor) :
      Made (package.declareType type)
  | function {package : Package} (made : Made package) (name : String) :
      Made (package.declareFunction name)
  | var {package : Package} (made : Made package) (name : String) :
      Made (package.declareVariable name)

theorem Named.declareType {package : Package} (named : package.Named) (type : TypeDescriptor) :
    (package.declareType type).Named :=
  OrderedMap.Each.insert named rfl

theorem Made.named {package : Package} (made : package.Made) : package.Named := by
  induction made with
  | bare path => exact OrderedMap.each_empty
  | name made name ih => exact ih.declareType _
  | type made type ih => exact ih.declareType type
  | function made name ih => exact ih
  | var made name ih => exact ih

end Package

namespace Universe

/-- The universes that come from the empty one when packages are put in. -/
inductive Filled : Universe → Prop
  | empty : Filled .empty
  | exchange {known : Universe} (filled : Filled known) {package : Package} (made : package.Made) :
      Filled (known.exchange package).2

/-- Every type is found by its own name alone and listed once, in the order of the names. -/
structure Orderly (known : Universe) : Prop where
  own : ∀ name type, known.type? name = some type → type.name = name
  declared : ∀ name, known.declares ⟨name,.type⟩ = true ↔ ∃ type, known.type? name = some type
  listed : ∀ type, type ∈ known.types ↔ ∃ name, known.type? name = some type
  once : known.types.Nodup
  ascending : known.types.Pairwise fun first second => first.name.order second.name = .lt

/-- What it comes to that a package is put in. Everything at its path is what the package declares, and
everything else is as it was. -/
structure Exchanged (known : Universe) (package : Package)
    (outcome : Option Package × Universe) : Prop where
  previous : outcome.1 = known.package? package.path
  here : outcome.2.package? package.path = some package
  typesHere : ∀ name, outcome.2.type? ⟨package.path,name⟩ = package.types.get? name
  symbolsHere : ∀ name kind,
    outcome.2.declares ⟨⟨package.path,name⟩,kind⟩ = package.declares name kind
  elsewhere : ∀ path, path ≠ package.path → outcome.2.package? path = known.package? path
  typesElsewhere : ∀ name : Name, name.package ≠ package.path →
    outcome.2.type? name = known.type? name
  symbolsElsewhere : ∀ symbol : SymbolRef, symbol.package ≠ package.path →
    outcome.2.declares symbol = known.declares symbol

variable {known : Universe}

theorem exchange_snd (known : Universe) (package : Package) :
    (known.exchange package).2 = known.insert package :=
  congrArg mk (known.packages.exchange_snd package.path package)

theorem Filled.named (filled : known.Filled) : known.Named := by
  induction filled with
  | empty => exact OrderedMap.each_empty
  | exchange filled made ih =>
    rw [exchange_snd]
    exact ih.insert made.named

theorem mem_types_iff {type : TypeDescriptor} :
    type ∈ known.types ↔ ∃ name, known.type? name = some type := by
  rw [types,List.mem_flatMap]
  constructor
  · rintro ⟨package,stands,inside⟩
    obtain ⟨path,atPath⟩ := (known.packages.mem_values_iff package).mp stands
    obtain ⟨name,atName⟩ := (package.types.mem_values_iff type).mp inside
    exact ⟨⟨path,name⟩,type?_eq_some_iff.mpr ⟨package,atPath,atName⟩⟩
  · rintro ⟨name,found⟩
    obtain ⟨package,atPath,atName⟩ := type?_eq_some_iff.mp found
    exact ⟨package,(known.packages.mem_values_iff package).mpr ⟨_,atPath⟩,
      (package.types.mem_values_iff type).mpr ⟨_,atName⟩⟩

theorem declares_type_iff (name : Name) :
    known.declares ⟨name,.type⟩ = true ↔ ∃ type, known.type? name = some type := by
  rw [← Option.isSome_iff_exists,declares,SymbolRef.package,type?]
  cases known.package? name.package with
  | none => simp
  | some package => exact Iff.rfl

theorem Named.types_nodup (named : known.Named) : known.types.Nodup := by
  apply named.types_ascending.imp
  intro first second less same
  rw [same,Name.order_eq_lt_iff] at less
  rcases less with package | ⟨_,name⟩
  · exact String.lt_irrefl _ package
  · exact String.lt_irrefl _ name

theorem Named.orderly (named : known.Named) : known.Orderly where
  own _ _ found := named.name_of_type? found
  declared := declares_type_iff
  listed _ := mem_types_iff
  once := named.types_nodup
  ascending := named.types_ascending

theorem package?_insert (known : Universe) (package : Package) (path : String) :
    (known.insert package).package? path =
      if path = package.path then some package else known.package? path :=
  OrderedMap.get?_insert known.packages package.path path package

theorem exchanged_exchange (known : Universe) (package : Package) :
    Exchanged known package (known.exchange package) := by
  have here : (known.insert package).package? package.path = some package := by
    rw [package?_insert,if_pos rfl]
  have elsewhere : ∀ path, path ≠ package.path →
      (known.insert package).package? path = known.package? path := by
    intro path apart
    rw [package?_insert,if_neg apart]
  refine ⟨known.packages.exchange_fst package.path package,?_,?_,?_,?_,?_,?_⟩ <;> rw [exchange_snd]
  · exact here
  · intro name
    rw [type?,here]
    rfl
  · intro name kind
    rw [declares,SymbolRef.package,here]
    rfl
  · exact elsewhere
  · intro name apart
    rw [type?,elsewhere _ apart,type?]
  · intro symbol apart
    rw [declares,elsewhere _ apart,declares]

/-- In a universe that packages were put into, types are found by their own names and listed once in
order. Putting in a package hands back the one at its path, and changes nothing at other paths. -/
theorem Filled.orderly_and_exchanged (filled : known.Filled) :
    known.Orderly ∧ ∀ package : Package, Exchanged known package (known.exchange package) :=
  ⟨filled.named.orderly,known.exchanged_exchange⟩

/-- A type that was described for another package, and a package that comes in place of its own. -/
theorem gadget_replaced :
    let gadget : TypeDescriptor := ⟨⟨"elsewhere","Gadget"⟩,["+genclient"],[],[]⟩
    let first := ((Package.bare "b").declareType gadget).declareFunction "Get"
    let second := (Package.bare "b").declareName "Widget"
    let known := ((empty.exchange first).2.exchange ((Package.bare "a").declareName "Widget")).2
    (known.Filled ∧ known.type? ⟨"b","Gadget"⟩ = some { gadget with name := ⟨"b","Gadget"⟩ } ∧
      known.types.map (·.name) = [⟨"a","Widget"⟩,⟨"b","Gadget"⟩]) ∧
    known.Orderly ∧ (known.exchange second).1 = some first ∧
      (known.exchange second).2.type? ⟨"b","Gadget"⟩ = none ∧
      (known.exchange second).2.type? ⟨"a","Widget"⟩ = some (.plain "a" "Widget") := by
  intro gadget first second known
  have made : first.Made := ((Package.Made.bare "b").type gadget).function "Get"
  have other : ((Package.bare "a").declareName "Widget").Made :=
    (Package.Made.bare "a").name "Widget"
  have filled : known.Filled := (Filled.empty.exchange made).exchange other
  obtain ⟨orderly,exchanged⟩ := filled.orderly_and_exchanged
  have outcome := exchanged second
  refine ⟨⟨filled,by decide,by decide⟩,orderly,?_,?_,?_⟩
  · exact outcome.previous.trans (by decide)
  · exact (outcome.typesHere "Gadget").trans (by decide)
  · exact (outcome.typesElsewhere _ (by decide)).trans (by decide)

end Universe

end InformerGen
