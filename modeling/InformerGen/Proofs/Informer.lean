import InformerGen.Informer
import InformerGen.Proofs.Bindings
import InformerGen.Proofs.Informer.Text
import InformerGen.Proofs.Resolver
import Mathlib.Data.List.Find

/-! Binding the template for one type. The first reference that is not declared or has no alias stops
the binding; otherwise every placeholder is bound to a value that suits it, so the rendering that
follows cannot fail. Which references there are depends on the packages and on the name of the type,
and on nothing else about the type. -/
namespace InformerGen.Informer

variable {resolver : Resolver} {config : GeneratorConfig} {type : TypeDescriptor} {tags : TagSet}

theorem oneToOne_aliasTable {known : Universe} {packages : PackagePaths} {outputs : List String}
    (ends : AliasTable.Ends (aliasedPaths known packages outputs) templateLocals) :
    ImportTracker.OneToOne (aliasTable known packages outputs).pairs :=
  ends.oneToOne

theorem requireAll_eq (resolver : Resolver) (references : List SymbolRef) :
    requireAll resolver references =
      match references.findSome? resolver.missing? with
      | some fault => .error fault
      | none => .ok () := by
  induction references with
  | nil => rfl
  | cons reference rest ih =>
    rw [requireAll,List.findSome?_cons,Resolver.require_eq]
    cases resolver.missing? reference with
    | some fault => rfl
    | none => exact ih

def symbols (resolver : Resolver) (references : List (String × SymbolRef)) :
    List (String × TemplateValue) :=
  references.map fun entry => (entry.1,.symbol (resolver.symbol entry.2))

theorem resolveAll_of_free (distinct : ImportTracker.OneToOne resolver.aliases.pairs)
    {references : List (String × SymbolRef)}
    (free : references.findSome? (fun entry => resolver.fault? entry.2) = none) {trail : Trail}
    (restricts : trail.imports.Restricts resolver.aliases) :
    ∃ after, resolveAll resolver references trail = (.ok (symbols resolver references),after) ∧
      resolver.Gathers (references.map (·.2)) trail after := by
  induction references generalizing trail with
  | nil => exact ⟨trail,rfl,Resolver.gathers_nil restricts⟩
  | cons entry rest ih =>
    rw [List.findSome?_cons] at free
    cases fault : resolver.fault? entry.2 with
    | some error =>
      rw [fault] at free
      cases free
    | none =>
      rw [fault] at free
      obtain ⟨middle,first,gathered⟩ := Resolver.resolve_of_free distinct fault restricts
      obtain ⟨after,others,more⟩ := ih free gathered.restricts
      refine ⟨after,?_,gathered.trans more⟩
      exact (Recording.bind_of_ok first).trans (Recording.bind_of_ok others)

theorem resolveAll_of_fault (distinct : ImportTracker.OneToOne resolver.aliases.pairs)
    {references : List (String × SymbolRef)} {error : GenerationError}
    (found : references.findSome? (fun entry => resolver.fault? entry.2) = some error)
    {trail : Trail} (restricts : trail.imports.Restricts resolver.aliases) :
    ∃ after, resolveAll resolver references trail = (.error error,after) := by
  induction references generalizing trail with
  | nil => cases found
  | cons entry rest ih =>
    rw [List.findSome?_cons] at found
    cases fault : resolver.fault? entry.2 with
    | some first =>
      rw [fault] at found
      cases found
      exact ⟨trail,Recording.bind_of_error (Resolver.resolve_of_fault fault trail)⟩
    | none =>
      rw [fault] at found
      obtain ⟨middle,first,gathered⟩ := Resolver.resolve_of_free distinct fault restricts
      obtain ⟨after,others⟩ := ih found gathered.restricts
      refine ⟨after,?_⟩
      exact (Recording.bind_of_ok first).trans (Recording.bind_of_error others)

theorem collects_of_resolveAll {references : List (String × SymbolRef)}
    {bound : List (String × TemplateValue)} {trail after : Trail}
    (done : resolveAll resolver references trail = (.ok bound,after)) :
    bound = symbols resolver references ∧
      resolver.Collects (references.map (·.2)) trail after := by
  induction references generalizing bound trail with
  | nil =>
    cases done
    exact ⟨rfl,Resolver.collects_nil _⟩
  | cons entry rest ih =>
    obtain ⟨symbol,middle,first,next⟩ := Recording.bind_eq_ok_iff.mp done
    obtain ⟨others,_,resolved,last⟩ := Recording.bind_eq_ok_iff.mp next
    cases last
    obtain ⟨rfl,collects⟩ := Resolver.collects_of_resolve first
    obtain ⟨rfl,more⟩ := ih resolved
    exact ⟨rfl,collects.trans more⟩

def obstacle? (resolver : Resolver) (packages : PackagePaths) (typeName : String) :
    Option GenerationError :=
  ((requirements packages).findSome? resolver.missing?).or
    ((references packages typeName).findSome? fun entry => resolver.fault? entry.2)

theorem obstacle?_ne_imports {packages : PackagePaths} {typeName : String} {error : ImportError} :
    obstacle? resolver packages typeName ≠ some (.imports error) := by
  intro found
  rw [obstacle?,Option.or_eq_some_iff] at found
  rcases found with missing | ⟨_,unresolved⟩
  · obtain ⟨reference,_,same⟩ := List.exists_of_findSome?_eq_some missing
    unfold Resolver.missing? at same
    split at same <;> cases same
  · obtain ⟨entry,_,same⟩ := List.exists_of_findSome?_eq_some unresolved
    exact Resolver.fault?_ne_imports same

def needs (resolver : Resolver) (packages : PackagePaths) (typeName : String) :
    Set (String × String) :=
  resolver.needs ((references packages typeName).map (·.2))

def context (config : GeneratorConfig) (resolver : Resolver) (type : TypeDescriptor)
    (tags : TagSet) : TemplateContext :=
  Bindings.ofList
    (symbols resolver (references config.packages type.name.name) ++ plainValues config type tags)

theorem bind_of_obstacle (distinct : ImportTracker.OneToOne resolver.aliases.pairs)
    {error : GenerationError}
    (found : obstacle? resolver config.packages type.name.name = some error) {trail : Trail}
    (restricts : trail.imports.Restricts resolver.aliases) (tags : TagSet) :
    ∃ after, bind config resolver type tags trail = (.error error,after) := by
  rw [obstacle?,Option.or_eq_some_iff] at found
  rcases found with missing | ⟨declared,unresolved⟩
  · refine ⟨trail,Recording.bind_of_error ?_⟩
    rw [Recording.lift_apply,requireAll_eq,missing]
  · obtain ⟨after,failed⟩ := resolveAll_of_fault distinct unresolved restricts
    have accepted : Recording.lift (requireAll resolver (requirements config.packages)) trail =
        (.ok (),trail) := by
      rw [Recording.lift_apply,requireAll_eq,declared]
    refine ⟨after,?_⟩
    exact (Recording.bind_of_ok accepted).trans (Recording.bind_of_error failed)

theorem bind_of_clear (distinct : ImportTracker.OneToOne resolver.aliases.pairs)
    (clear : obstacle? resolver config.packages type.name.name = none) {trail : Trail}
    (restricts : trail.imports.Restricts resolver.aliases) (tags : TagSet) :
    ∃ after, bind config resolver type tags trail =
        (.ok (context config resolver type tags),after) ∧
      resolver.Gathers ((references config.packages type.name.name).map (·.2)) trail after := by
  rw [obstacle?,Option.or_eq_none_iff] at clear
  obtain ⟨after,resolved,gathers⟩ := resolveAll_of_free distinct clear.2 restricts
  have accepted : Recording.lift (requireAll resolver (requirements config.packages)) trail =
      (.ok (),trail) := by
    rw [Recording.lift_apply,requireAll_eq,clear.1]
  refine ⟨after,?_,gathers⟩
  exact (Recording.bind_of_ok accepted).trans (Recording.bind_of_ok resolved)

theorem collects_of_bind {tags : TagSet} {bound : TemplateContext} {trail after : Trail}
    (done : bind config resolver type tags trail = (.ok bound,after)) :
    bound = context config resolver type tags ∧
      resolver.Collects ((references config.packages type.name.name).map (·.2)) trail after := by
  obtain ⟨_,middle,required,resolves⟩ := Recording.bind_eq_ok_iff.mp done
  obtain ⟨symbols,_,resolved,last⟩ := Recording.bind_eq_ok_iff.mp resolves
  rw [Recording.lift_apply] at required
  obtain rfl := (Prod.mk.inj required).2
  cases last
  obtain ⟨rfl,collects⟩ := collects_of_resolveAll resolved
  exact ⟨rfl,collects⟩

def slots : List (String × Option String) := [
  ("injectionRegisterInformer",none),
  ("contextContext",none),("contextContext",none),("controllerInformer",none),
  ("factoryGet",none),
  ("group",none),("version",none),("type",some NameSystems.capitalizedPluralId),
  ("contextWithValue",none),
  ("type",some NameSystems.resourceId),
  ("namespaced",none),
  ("typeName",none),
  ("contextContext",none),("informersTypedInformer",none),
  ("informersTypedInformer",none)]

theorem slots_eq : (Template.mk segments).placeholders.map
    (fun placeholder => (placeholder.name,placeholder.system)) = slots := rfl

theorem names_context_distinct : ((symbols resolver (references config.packages type.name.name) ++
    plainValues config type tags).map (·.1)).Nodup := by
  change ["injectionRegisterInformer","controllerInformer","contextContext","contextWithValue",
    "factoryGet","informersTypedInformer","group","version","typeName","namespaced","type"].Nodup
  decide

theorem systems_known (tables : NamingTables) :
    ∀ id ∈ [NameSystems.capitalizedPluralId,NameSystems.resourceId],
      id ≠ NameSystems.rawId ∧ ((NameSystems.ofTables tables).get? id).isSome := by
  simp only [List.forall_mem_cons]
  exact ⟨⟨by decide,rfl⟩,⟨by decide,rfl⟩,by simp⟩

theorem slots_suit (tables : NamingTables) : ∀ slot ∈ slots, ∃ value,
    (context config resolver type tags).get? slot.1 = some value ∧
      Template.Suits (NameSystems.ofTables tables) slot.2 value := by
  have systems := systems_known tables
  simp only [List.forall_mem_cons] at systems
  obtain ⟨⟨plural,pluralKnown⟩,⟨resource,resourceKnown⟩,_⟩ := systems
  simp only [context,Bindings.get?_ofList names_context_distinct,slots,List.forall_mem_cons]
  refine ⟨?_,?_,?_,?_,?_,?_,?_,?_,?_,?_,?_,?_,?_,?_,?_,by simp⟩
  case refine_8 => exact ⟨.type type,rfl,_,rfl,plural,pluralKnown⟩
  case refine_10 => exact ⟨.type type,rfl,_,rfl,resource,resourceKnown⟩
  case refine_6 | refine_7 | refine_11 | refine_12 => exact ⟨_,rfl,rfl⟩
  all_goals exact ⟨.symbol _,rfl,.inl rfl⟩

/-- The text for a type: each symbol as the resolver writes it, and the type by two of its names. -/
def textFor (config : GeneratorConfig) (resolver : Resolver) (type : TypeDescriptor)
    (tags : TagSet) : String :=
  let plural := Namer.excepting .doubled config.naming.exceptions
    (.capitalizedPlural config.naming.irregular)
  let resource := Namer.directed TagSet.resourceNameKey (.lowercasePlural config.naming.irregular)
  fileText (fun reference => (resolver.symbol reference).text) config type.name.name
    (plural.nameOf type) (resource.nameOf type) tags.namespaced

theorem written_segments : (Template.mk segments).written (context config resolver type tags)
    (NameSystems.ofTables config.naming) = textFor config resolver type tags := by
  rw [Template.written_eq_join,textFor,fileText]
  apply congrArg
  simp only [segments,List.map_cons,List.map_nil,Template.segmentText,context,
    Bindings.get?_ofList names_context_distinct]
  rfl

theorem render_segments (config : GeneratorConfig) (resolver : Resolver) (type : TypeDescriptor)
    (tags : TagSet) (trail : Trail) :
    (Template.mk segments).render (context config resolver type tags)
      (NameSystems.ofTables config.naming) resolver trail =
        (.ok (textFor config resolver type tags),trail) := by
  have fits : ∀ placeholder ∈ (Template.mk segments).placeholders,
      Template.Fits (context config resolver type tags) (NameSystems.ofTables config.naming)
        placeholder := by
    intro placeholder member
    have slot : (placeholder.name,placeholder.system) ∈ slots := by
      rw [← slots_eq]
      exact List.mem_map_of_mem member
    exact slots_suit config.naming _ slot
  rw [Template.render_of_fits fits,written_segments]

variable {packages : PackagePaths} {typeName : String}

/-- What a file relies on beside the prelude, in the order in which it is looked up. -/
def collaborators (packages : PackagePaths) (typeName : String) : List SymbolRef := [
  .ofType packages.clientset "Interface",
  .ofType packages.internalInterfaces "SharedInformerFactory",
  .ofFunction packages.injection "RegisterInformer",
  .ofType packages.controller "Informer",
  .ofFunction packages.factory "Get",
  .ofType packages.typedInformers (typeName ++ "Informer")]

theorem findSome?_missing? (symbols : List SymbolRef) : symbols.findSome? resolver.missing? =
    (symbols.find? fun symbol => !resolver.isDeclared symbol).map .unknownSymbol := by
  rw [List.find?_eq_findSome?_guard,List.map_findSome?]
  congr 1
  funext symbol
  cases declared : resolver.isDeclared symbol <;>
    simp [Resolver.missing?,Option.guard,declared]

theorem notMem_prelude : ∀ symbol ∈ collaborators packages typeName,
    symbol ∉ Resolver.prelude := by
  have typed : typeName ++ "Informer" ≠ "Context" := by
    intro same
    have last := congrArg (·.toList.getLast?) same
    simp at last
  simp [collaborators,Resolver.prelude,SymbolRef.ofType,SymbolRef.ofFunction,typed]

theorem find?_undeclared : (requirements packages ++
      (references packages typeName).map (·.2)).find? (fun symbol => !resolver.isDeclared symbol) =
    (collaborators packages typeName).find? fun symbol => !resolver.known.declares symbol := by
  have prelude : Resolver.prelude.find? (fun symbol => !resolver.isDeclared symbol) = none := by
    apply List.find?_eq_none.mpr
    intro symbol member
    simp [Resolver.isDeclared,member]
  have same : ∀ symbol ∈ collaborators packages typeName,
      (!resolver.isDeclared symbol) = !resolver.known.declares symbol := by
    intro symbol member
    simp [Resolver.isDeclared,notMem_prelude symbol member]
  rw [← List.find?_congr same]
  -- the prelude stands in the middle of the references, and is always declared
  have parts : requirements packages ++ (references packages typeName).map (·.2) =
      (collaborators packages typeName).take 4 ++ (Resolver.prelude ++
        (collaborators packages typeName).drop 4) := rfl
  rw [parts,List.find?_append,List.find?_append,prelude,Option.none_or,← List.find?_append,
    List.take_append_drop]

theorem obstacle?_of_aliased
    (aliased : ∀ entry ∈ references packages typeName, resolver.unaliased? entry.2 = none) :
    obstacle? resolver packages typeName =
      ((collaborators packages typeName).find? fun symbol =>
        !resolver.known.declares symbol).map .unknownSymbol := by
  have faults : ∀ entry ∈ references packages typeName,
      resolver.fault? entry.2 = resolver.missing? entry.2 := by
    intro entry member
    rw [Resolver.fault?,aliased entry member,Option.or_none]
  have unresolved : (references packages typeName).findSome? (fun entry => resolver.fault? entry.2) =
      ((references packages typeName).map (·.2)).findSome? resolver.missing? := by
    rw [← List.head?_filterMap,List.filterMap_congr faults,List.head?_filterMap,List.findSome?_map]
    rfl
  rw [obstacle?,unresolved,← List.findSome?_append,findSome?_missing?,find?_undeclared]

end InformerGen.Informer
