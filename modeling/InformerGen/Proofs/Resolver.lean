import InformerGen.Resolver
import InformerGen.Proofs.Alias.Ending

/-! Resolving references against a table that gives no alias twice. Whether a reference can be
resolved, and to what, does not depend on what has been recorded before; what has been recorded only
grows by the imports of the references that were resolved, and stays a part of the table. It is for
this reason that no import is ever refused. Against any other table a reference may fail, but what
has been resolved has brought its import all the same. -/
namespace InformerGen

namespace Recording

variable {α β : Type} {first : Recording α} {next : α → Recording β} {trail after : Trail}

theorem bind_of_ok {value : α} (done : first trail = (.ok value,after)) :
    (first >>= next) trail = next value after := by
  rw [bind_apply,done]

theorem bind_of_error {error : GenerationError} (failed : first trail = (.error error,after)) :
    (first >>= next) trail = (.error error,after) := by
  rw [bind_apply,failed]

theorem bind_eq_ok_iff {value : β} : (first >>= next) trail = (.ok value,after) ↔
    ∃ found middle, first trail = (.ok found,middle) ∧ next found middle = (.ok value,after) := by
  rw [bind_apply]
  constructor
  · intro done
    split at done
    next found middle ran => exact ⟨found,middle,ran,done⟩
    next error middle failed => cases done
  · rintro ⟨found,middle,ran,done⟩
    rw [ran]
    exact done

@[simp] theorem lift_apply (result : Except GenerationError α) (trail : Trail) :
    lift result trail = (result,trail) := rfl

theorem pairs_of_recordImport {path qualifier : String}
    (recorded : recordImport path qualifier trail = (.ok (),after)) :
    after.imports.pairs = trail.imports.pairs ∪ {(path,qualifier)} := by
  cases checked : trail.imports.check path qualifier with
  | error error =>
    rw [recordImport,ImportTracker.add_of_check_error checked] at recorded
    cases recorded
  | ok =>
    have same : (trail.imports.add path qualifier).2 = after.imports :=
      congrArg (·.2.imports) recorded
    rw [← same,ImportTracker.pairs_add checked]

end Recording

namespace ImportTracker

/-- The recorded imports are entries of the table. -/
structure Restricts (imports : ImportTracker) (table : AliasTable) : Prop where
  consistent : imports.Consistent
  inside : imports.pairs ⊆ table.pairs

theorem restricts_empty (table : AliasTable) : empty.Restricts table := by
  refine ⟨consistent_empty,?_⟩
  rw [pairs_empty]
  exact Set.empty_subset _

namespace Restricts

variable {imports : ImportTracker} {table : AliasTable}

theorem add (restricts : imports.Restricts table) (distinct : OneToOne table.pairs)
    {path qualifier : String} (known : table.alias? path = some qualifier) :
    ∃ after, imports.add path qualifier = (.ok (),after) ∧ after.Restricts table ∧
      after.pairs = imports.pairs ∪ {(path,qualifier)} := by
  have whole : imports.pairs ∪ {(path,qualifier)} ⊆ table.pairs := by
    apply Set.union_subset restricts.inside
    rintro entry rfl
    exact known
  have recorded := restricts.consistent.records_add path qualifier
  have accepted := recorded.accepted_iff.mpr (distinct.mono whole)
  have pairs := recorded.pairs_eq accepted
  have consistent := restricts.consistent.add path qualifier
  exact ⟨_,Prod.ext accepted rfl,⟨consistent,pairs ▸ whole⟩,pairs⟩

end Restricts

end ImportTracker

namespace Resolver

variable (resolver : Resolver)

def missing? (reference : SymbolRef) : Option GenerationError :=
  if resolver.isDeclared reference then none else some (.unknownSymbol reference)

def unaliased? (reference : SymbolRef) : Option GenerationError :=
  if reference.package = resolver.home ∨ (resolver.aliases.alias? reference.package).isSome then
    none
  else some (.unknownPackage reference.package)

def fault? (reference : SymbolRef) : Option GenerationError :=
  (resolver.missing? reference).or (resolver.unaliased? reference)

def qualifier? (path : String) : Option String :=
  if path = resolver.home then none else resolver.aliases.alias? path

def symbol (reference : SymbolRef) : Symbol := ⟨reference,resolver.qualifier? reference.package⟩

/-- The imports that come with references: those of their packages, without the home package. -/
def needs (references : List SymbolRef) : Set (String × String) :=
  {entry | ∃ reference ∈ references, reference.package = entry.1 ∧
    resolver.qualifier? entry.1 = some entry.2}

/-- The trail has grown by the imports of the references. -/
structure Gathers (references : List SymbolRef) (before after : Trail) : Prop where
  restricts : after.imports.Restricts resolver.aliases
  pairs_eq : after.imports.pairs = before.imports.pairs ∪ resolver.needs references

variable {resolver}

theorem needs_append (first second : List SymbolRef) :
    resolver.needs (first ++ second) = resolver.needs first ∪ resolver.needs second := by
  ext entry
  simp only [needs,Set.mem_ofPred_eq,Set.mem_union,List.mem_append,or_and_right,exists_or]

theorem qualifier?_eq_some_iff {path name : String} : resolver.qualifier? path = some name ↔
    path ≠ resolver.home ∧ resolver.aliases.alias? path = some name := by
  unfold qualifier?
  split
  next home => exact iff_of_false (by simp) (fun abroad => abroad.1 home)
  next abroad => exact (and_iff_right abroad).symm

theorem text_symbol_of_home {reference : SymbolRef} (home : reference.package = resolver.home) :
    (resolver.symbol reference).text = reference.name.name := by
  rw [Symbol.text,symbol,qualifier?,if_pos home]

theorem text_symbol_of_qualified {reference : SymbolRef} {name : String}
    (qualified : resolver.qualifier? reference.package = some name) :
    (resolver.symbol reference).text = name ++ "." ++ reference.name.name := by
  rw [Symbol.text,symbol,qualified]

theorem needs_subset (references : List SymbolRef) :
    resolver.needs references ⊆ resolver.aliases.pairs := by
  rintro entry ⟨_,_,_,qualified⟩
  exact (qualifier?_eq_some_iff.mp qualified).2

theorem needs_singleton_of_home {reference : SymbolRef}
    (home : reference.package = resolver.home) : resolver.needs [reference] = ∅ := by
  apply Set.eq_empty_of_forall_notMem
  rintro entry ⟨other,member,package,qualified⟩
  obtain rfl := List.mem_singleton.mp member
  rw [qualifier?,← package,if_pos home] at qualified
  cases qualified

theorem needs_singleton_of_qualified {reference : SymbolRef} {name : String}
    (qualified : resolver.qualifier? reference.package = some name) :
    resolver.needs [reference] = {(reference.package,name)} := by
  ext ⟨path,other⟩
  simp only [needs,List.mem_singleton,exists_eq_left,Set.mem_ofPred_eq,Set.mem_singleton_iff,
    Prod.mk.injEq]
  constructor
  · rintro ⟨rfl,same⟩
    rw [qualified] at same
    exact ⟨rfl,(Option.some.inj same).symm⟩
  · rintro ⟨rfl,rfl⟩
    exact ⟨rfl,qualified⟩

theorem Gathers.trans {first second : List SymbolRef} {before middle after : Trail}
    (left : resolver.Gathers first before middle) (right : resolver.Gathers second middle after) :
    resolver.Gathers (first ++ second) before after := by
  refine ⟨right.restricts,?_⟩
  rw [right.pairs_eq,left.pairs_eq,needs_append,Set.union_assoc]

theorem gathers_nil {trail : Trail} (restricts : trail.imports.Restricts resolver.aliases) :
    resolver.Gathers [] trail trail := by
  refine ⟨restricts,?_⟩
  simp [needs]

theorem require_eq (reference : SymbolRef) : resolver.require reference =
    match resolver.missing? reference with
    | some fault => .error fault
    | none => .ok () := by
  unfold require missing?
  split <;> rfl

theorem require_eq_ok (declared : resolver.missing? reference = none) :
    resolver.require reference = .ok () := by
  rw [require_eq,declared]

theorem unaliased?_eq_none_iff {reference : SymbolRef} : resolver.unaliased? reference = none ↔
    reference.package = resolver.home ∨
      (resolver.aliases.alias? reference.package).isSome := by
  unfold unaliased?
  split
  next known => exact iff_of_true rfl known
  next unknown => exact iff_of_false (by simp) unknown

theorem fault?_ne_imports {reference : SymbolRef} {error : ImportError} :
    resolver.fault? reference ≠ some (.imports error) := by
  unfold fault? missing? unaliased?
  split <;> split <;> simp

theorem resolve_of_fault {reference : SymbolRef} {fault : GenerationError}
    (found : resolver.fault? reference = some fault) (trail : Trail) :
    resolver.resolve reference trail = (.error fault,trail) := by
  rw [fault?,Option.or_eq_some_iff] at found
  rcases found with missing | ⟨declared,unaliased⟩
  · apply Recording.bind_of_error
    rw [Recording.lift_apply,require_eq,missing]
  · have accepted : Recording.lift (resolver.require reference) trail = (.ok (),trail) := by
      rw [Recording.lift_apply,require_eq_ok declared]
    refine (Recording.bind_of_ok accepted).trans (Recording.bind_of_error ?_)
    unfold unaliased? at unaliased
    split at unaliased
    · cases unaliased
    · next outside =>
      rw [not_or,Option.not_isSome_iff_eq_none] at outside
      rw [qualify,if_neg outside.1,outside.2]
      cases unaliased
      rfl

theorem qualify_of_aliased (distinct : ImportTracker.OneToOne resolver.aliases.pairs)
    {reference : SymbolRef} (aliased : resolver.unaliased? reference = none) {trail : Trail}
    (restricts : trail.imports.Restricts resolver.aliases) :
    ∃ after, resolver.qualify reference.package trail =
        (.ok (resolver.qualifier? reference.package),after) ∧
      resolver.Gathers [reference] trail after := by
  by_cases home : reference.package = resolver.home
  · refine ⟨trail,?_,restricts,?_⟩
    · rw [qualify,qualifier?,if_pos home,if_pos home]
      rfl
    · rw [needs_singleton_of_home home,Set.union_empty]
  · rw [unaliased?_eq_none_iff,or_iff_right home,Option.isSome_iff_exists] at aliased
    obtain ⟨name,known⟩ := aliased
    have qualified : resolver.qualifier? reference.package = some name := by
      rw [qualifier?,if_neg home,known]
    obtain ⟨imports,added,next,pairs⟩ := restricts.add distinct known
    refine ⟨⟨imports,trail.events⟩,?_,next,?_⟩
    · rw [qualify,if_neg home,known,qualified]
      apply Recording.bind_of_ok
      rw [Recording.recordImport,added]
      rfl
    · rw [pairs,needs_singleton_of_qualified qualified]

theorem resolve_of_free (distinct : ImportTracker.OneToOne resolver.aliases.pairs)
    {reference : SymbolRef} (free : resolver.fault? reference = none) {trail : Trail}
    (restricts : trail.imports.Restricts resolver.aliases) :
    ∃ after, resolver.resolve reference trail = (.ok (resolver.symbol reference),after) ∧
      resolver.Gathers [reference] trail after := by
  rw [fault?,Option.or_eq_none_iff] at free
  have accepted : Recording.lift (resolver.require reference) trail = (.ok (),trail) := by
    rw [Recording.lift_apply,require_eq_ok free.1]
  obtain ⟨after,qualified,gathers⟩ := qualify_of_aliased distinct free.2 restricts
  refine ⟨_,(Recording.bind_of_ok accepted).trans (Recording.bind_of_ok qualified),?_⟩
  exact ⟨gathers.restricts,gathers.pairs_eq⟩

/-- Each of the references is of the home package or of one with an alias, and the trail has grown by
their imports. -/
structure Collects (resolver : Resolver) (references : List SymbolRef) (before after : Trail) :
    Prop where
  aliased : ∀ reference ∈ references, resolver.unaliased? reference = none
  pairs_eq : after.imports.pairs = before.imports.pairs ∪ resolver.needs references

theorem collects_nil (trail : Trail) : resolver.Collects [] trail trail := by
  refine ⟨List.forall_mem_nil _,?_⟩
  simp [needs]

theorem Collects.trans {first second : List SymbolRef} {before middle after : Trail}
    (left : resolver.Collects first before middle) (right : resolver.Collects second middle after) :
    resolver.Collects (first ++ second) before after := by
  refine ⟨List.forall_mem_append.mpr ⟨left.aliased,right.aliased⟩,?_⟩
  rw [right.pairs_eq,left.pairs_eq,needs_append,Set.union_assoc]

theorem Collects.qualified_of_ne {references : List SymbolRef} {before after : Trail}
    (collects : resolver.Collects references before after) {reference : SymbolRef}
    (member : reference ∈ references) (abroad : reference.package ≠ resolver.home) :
    ∃ qualifier, resolver.qualifier? reference.package = some qualifier := by
  rcases unaliased?_eq_none_iff.mp (collects.aliased reference member) with home | known
  · exact absurd home abroad
  · rw [qualifier?,if_neg abroad]
    exact Option.isSome_iff_exists.mp known

theorem collects_of_qualify {reference : SymbolRef} {qualifier : Option String}
    {trail after : Trail}
    (done : resolver.qualify reference.package trail = (.ok qualifier,after)) :
    qualifier = resolver.qualifier? reference.package ∧
      resolver.Collects [reference] trail after := by
  by_cases home : reference.package = resolver.home
  · rw [qualify,if_pos home] at done
    cases done
    refine ⟨?_,?_,?_⟩
    · rw [qualifier?,if_pos home]
    · exact List.forall_mem_singleton.mpr (unaliased?_eq_none_iff.mpr (.inl home))
    · rw [needs_singleton_of_home home,Set.union_empty]
  · rw [qualify,if_neg home] at done
    cases known : resolver.aliases.alias? reference.package with
    | none =>
      rw [known] at done
      cases done
    | some name =>
      rw [known] at done
      have qualified : resolver.qualifier? reference.package = some name := by
        rw [qualifier?,if_neg home,known]
      obtain ⟨_,middle,recorded,rest⟩ := Recording.bind_eq_ok_iff.mp done
      cases rest
      refine ⟨qualified.symm,?_,?_⟩
      · exact List.forall_mem_singleton.mpr (unaliased?_eq_none_iff.mpr (.inr (by simp [known])))
      · rw [needs_singleton_of_qualified qualified]
        exact Recording.pairs_of_recordImport recorded

theorem collects_of_resolve {reference : SymbolRef} {symbol : Symbol} {trail after : Trail}
    (done : resolver.resolve reference trail = (.ok symbol,after)) :
    symbol = resolver.symbol reference ∧ resolver.Collects [reference] trail after := by
  obtain ⟨_,middle,declared,qualifies⟩ := Recording.bind_eq_ok_iff.mp done
  obtain ⟨qualifier,_,qualified,reported⟩ := Recording.bind_eq_ok_iff.mp qualifies
  rw [Recording.lift_apply] at declared
  obtain rfl := (Prod.mk.inj declared).2
  obtain ⟨rfl,collects⟩ := collects_of_qualify qualified
  cases reported
  exact ⟨rfl,collects.aliased,collects.pairs_eq⟩

end Resolver

end InformerGen
