import InformerGen.Proofs.Generator

/-! The imports of a file and the symbols in its text. Imports are recorded when the symbols are
resolved, and the text is written afterwards, but both go by the qualifiers of the same resolver:
every import is used, and every package that the text names is imported. -/
namespace InformerGen.InformerGenerator

variable {generator : InformerGenerator} {type : TypeDescriptor}

theorem composed_of_generated {file : Generated}
    (generated : (generator.generate type).result = .ok (some file)) :
    ∃ trail, generator.compose type .empty = (.ok file.text,trail) ∧
      file.imports = trail.imports.lines := by
  rw [result_generate] at generated
  cases applies : generator.applies type with
  | false => simp [prepare,applies,Except.map] at generated
  | true =>
    rcases composed : generator.compose type .empty with ⟨error | text,trail⟩
    · simp [prepare,applies,composed,Except.map] at generated
    · rcases merged : generator.imports.merge trail.imports with ⟨error | _,imports⟩
      · simp [prepare,applies,composed,merged,Except.map] at generated
      · simp only [prepare,applies,composed,merged,if_true,Except.map,Option.map_some,
          Except.ok.injEq,Option.some.injEq] at generated
        subst generated
        exact ⟨trail,rfl,rfl⟩

theorem text_of_composed {text : String} {trail : Trail}
    (composed : generator.compose type .empty = (.ok text,trail)) :
    ∃ tags, TagSet.parse type.lines = .ok tags ∧
      text = Informer.textFor generator.config generator.resolver type tags ∧
      generator.resolver.Collects (Informer.named generator.config.packages type.name.name)
        .empty trail := by
  cases parsed : TagSet.parse type.lines with
  | error error =>
    obtain ⟨_,failed⟩ := @compose_of_malformed generator _ _ parsed
    cases composed.symm.trans failed
  | ok tags =>
    obtain ⟨middle,unrecorded,same⟩ := @compose_of_parsed generator _ _ parsed
    obtain ⟨bound,after,binds,renders⟩ := Recording.bind_eq_ok_iff.mp (same.symm.trans composed)
    obtain ⟨rfl,collects⟩ := Informer.collects_of_bind binds
    rw [Informer.parse_templateText] at renders
    have rendered := (Informer.render_segments generator.config generator.resolver type tags
      _).symm.trans renders
    obtain ⟨written,rfl⟩ := Prod.mk.inj rendered
    refine ⟨tags,rfl,(Except.ok.inj written).symm,collects.aliased,?_⟩
    have pairs := collects.pairs_eq
    rw [unrecorded] at pairs
    exact pairs

section

variable {resolver : Resolver} {packages : PackagePaths} {typeName : String} {trail : Trail}

theorem mem_entries_of_collects
    (collects : resolver.Collects (Informer.named packages typeName) .empty trail)
    (entry : String × String) : entry ∈ trail.imports.byPath.entries ↔
      entry.1 ∈ Informer.dependencies packages ∧ resolver.qualifier? entry.1 = some entry.2 := by
  have none : Trail.empty.imports.pairs = ∅ := ImportTracker.pairs_empty
  rw [ImportTracker.mem_entries_iff_mem_pairs,collects.pairs_eq,none,Set.empty_union,
    Informer.mem_dependencies_iff]
  constructor
  · rintro ⟨symbol,member,package,qualified⟩
    exact ⟨⟨symbol,member,package⟩,qualified⟩
  · rintro ⟨⟨symbol,member,package⟩,qualified⟩
    exact ⟨symbol,member,package,qualified⟩

theorem entry_of_abroad
    (collects : resolver.Collects (Informer.named packages typeName) .empty trail)
    {symbol : SymbolRef} (member : symbol ∈ Informer.named packages typeName)
    (abroad : symbol.package ≠ resolver.home) :
    ∃ qualifier, (symbol.package,qualifier) ∈ trail.imports.byPath.entries ∧
      (resolver.symbol symbol).text = qualifier ++ "." ++ symbol.name.name := by
  obtain ⟨qualifier,qualified⟩ := collects.qualified_of_ne member abroad
  have dependency := Informer.mem_dependencies_iff.mpr ⟨symbol,member,rfl⟩
  exact ⟨qualifier,(mem_entries_of_collects collects _).mpr ⟨dependency,qualified⟩,
    Resolver.text_symbol_of_qualified qualified⟩

end

/-- The imports of a file and the symbols in its text answer each other. -/
structure Accounted (generator : InformerGenerator) (type : TypeDescriptor) (file : Generated)
    (imported : List (String × String)) : Prop where
  ascending : imported.Pairwise fun one other => one.1 < other.1
  lines_eq : file.imports = imported.map fun entry => ImportTracker.line entry.1 entry.2
  mem_paths_iff : ∀ path, path ∈ imported.map (·.1) ↔
    path ∈ Informer.dependencies generator.config.packages ∧
      path ≠ generator.config.outputPackage
  aliased : ∀ entry ∈ imported, generator.aliases.alias? entry.1 = some entry.2
  used : ∀ entry ∈ imported, ∃ symbol ∈ Informer.named generator.config.packages type.name.name,
    symbol.package = entry.1 ∧ Informer.Stands (entry.2 ++ "." ++ symbol.name.name) file.text
  written : ∀ symbol ∈ Informer.named generator.config.packages type.name.name,
    (symbol.package = generator.config.outputPackage ∧
      Informer.Stands symbol.name.name file.text) ∨
    ∃ entry ∈ imported, entry.1 = symbol.package ∧
      Informer.Stands (entry.2 ++ "." ++ symbol.name.name) file.text
  /-- The symbols stand wherever the template has them. -/
  text_eq : ∃ tags, TagSet.parse type.lines = .ok tags ∧
    file.text = Informer.textFor generator.config generator.resolver type tags

/-- In every file that is generated, no import is unused and none is missing, whatever the table of
aliases and whatever has been generated before. -/
theorem generated_imports_accounted {file : Generated}
    (generated : (generator.generate type).result = .ok (some file)) :
    ∃ imported, Accounted generator type file imported := by
  obtain ⟨trail,composed,lines⟩ := composed_of_generated generated
  obtain ⟨tags,parsed,text,collects⟩ := text_of_composed composed
  have entries := mem_entries_of_collects collects
  have stands : ∀ symbol ∈ Informer.named generator.config.packages type.name.name,
      Informer.Stands (generator.resolver.symbol symbol).text file.text := by
    rw [text]
    exact Informer.stands_of_named
  refine ⟨trail.imports.byPath.entries,?_⟩
  constructor
  case ascending => exact trail.imports.byPath.ascending
  case lines_eq => exact lines
  case text_eq => exact ⟨tags,parsed,text⟩
  case aliased =>
    intro entry member
    exact (Resolver.qualifier?_eq_some_iff.mp ((entries entry).mp member).2).2
  case mem_paths_iff =>
    intro path
    constructor
    · intro member
      obtain ⟨entry,listed,rfl⟩ := List.mem_map.mp member
      obtain ⟨dependency,qualified⟩ := (entries entry).mp listed
      exact ⟨dependency,(Resolver.qualifier?_eq_some_iff.mp qualified).1⟩
    · rintro ⟨dependency,abroad⟩
      obtain ⟨symbol,member,rfl⟩ := Informer.mem_dependencies_iff.mp dependency
      obtain ⟨qualifier,imported,_⟩ := entry_of_abroad collects member abroad
      exact List.mem_map.mpr ⟨_,imported,rfl⟩
  case used =>
    intro entry member
    obtain ⟨dependency,qualified⟩ := (entries entry).mp member
    obtain ⟨symbol,listed,package⟩ := Informer.mem_dependencies_iff.mp dependency
    rw [← package] at qualified
    refine ⟨symbol,listed,package,?_⟩
    rw [← Resolver.text_symbol_of_qualified qualified]
    exact stands symbol listed
  case written =>
    intro symbol member
    by_cases home : symbol.package = generator.config.outputPackage
    · left
      refine ⟨home,?_⟩
      rw [← @Resolver.text_symbol_of_home generator.resolver symbol home]
      exact stands symbol member
    · right
      obtain ⟨qualifier,imported,qualified⟩ := entry_of_abroad collects member home
      refine ⟨_,imported,rfl,?_⟩
      rw [← qualified]
      exact stands symbol member

/-- The package of the controller is that of the file, and other packages fall together. -/
theorem gadget_imports_accounted :
    let gadget := TypeDescriptor.plain "api" "Gadget"
    let known := Universe.ofPackages [
      (Package.bare "c").declareType (.plain "c" "Interface"),
      ((Package.bare "t/v1").declareType (.plain "t/v1" "GadgetInformer")).declareFunction
        "RegisterInformer",
      (Package.bare "context").declareFunction "Get",
      (Package.bare "i").declareType (.plain "i" "SharedInformerFactory"),
      (Package.bare "out/gadget").declareType (.plain "out/gadget" "Informer")]
    let config : GeneratorConfig := ⟨"out/gadget",⟨"example.com","v1",none⟩,
      ⟨"c","t/v1","context","i","t/v1","out/gadget"⟩,.standard⟩
    let paths := Informer.aliasedPaths known config.packages [config.outputPackage]
    let generator := (create known config gadget.name).withAliases
      (.build paths Informer.templateLocals)
    ∃ file imported, (generator.generate gadget).result = .ok (some file) ∧
      Accounted generator gadget file imported := by
  intro gadget known config paths generator
  have clear : generator.obstacle? gadget = none := by decide +kernel
  have ends : AliasTable.Ends paths Informer.templateLocals :=
    AliasTable.ends_of_spellable (by decide +kernel) _
  have sound : generator.Sound := sound_create ends.oneToOne known config gadget.name
  obtain ⟨file,generated⟩ := sound.generated_of_clear rfl clear
  obtain ⟨imported,accounted⟩ := generated_imports_accounted generated
  exact ⟨file,imported,generated,accounted⟩

end InformerGen.InformerGenerator
