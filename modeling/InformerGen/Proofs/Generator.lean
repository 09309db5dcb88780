import InformerGen.Generator
import InformerGen.Proofs.Imports.Merging
import InformerGen.Proofs.Informer

/-! What one generation comes to. The obstacle to it, if there is one, depends on the directives of
the type, on its name and on the settings; the imports of the file depend on the name and the
settings alone. A generator that has gathered nothing, or the imports of its own file, can therefore
always take them up again, and gathers no others. -/
namespace InformerGen.InformerGenerator

variable {generator : InformerGenerator} {type : TypeDescriptor}

def obstacle? (generator : InformerGenerator) (type : TypeDescriptor) : Option GenerationError :=
  match TagSet.parse type.lines with
  | .error error => some (.malformedTag error)
  | .ok _ => Informer.obstacle? generator.resolver generator.config.packages type.name.name

theorem obstacle?_ne_imports {error : ImportError} :
    generator.obstacle? type ≠ some (.imports error) := by
  unfold obstacle?
  split
  · simp
  · exact Informer.obstacle?_ne_imports

theorem readTags_of_error {error : TagError} (refused : TagSet.parse type.lines = .error error)
    (trail : Trail) : readTags type trail = (.error (.malformedTag error),trail) := by
  rw [readTags,refused]
  rfl

theorem readTags_of_ok {tags : TagSet} (parsed : TagSet.parse type.lines = .ok tags)
    (trail : Trail) : ∃ after, readTags type trail = (.ok tags,after) ∧
      after.imports = trail.imports := by
  rw [readTags,parsed]
  exact ⟨_,rfl,rfl⟩

theorem compose_of_malformed {error : TagError}
    (refused : TagSet.parse type.lines = .error error) :
    ∃ trail, generator.compose type .empty = (.error (.malformedTag error),trail) :=
  ⟨_,(Recording.bind_of_ok rfl).trans (Recording.bind_of_error (readTags_of_error refused _))⟩

theorem compose_of_parsed {tags : TagSet} (parsed : TagSet.parse type.lines = .ok tags) :
    ∃ middle : Trail, middle.imports = .empty ∧
      generator.compose type .empty =
        (do
          let context ← Informer.bind generator.config generator.resolver type tags
          Recording.report
            ⟨.trace,"template context",[("ty",type.name.text),("context",context.toJson.render)]⟩
          Recording.report (enter "rendering template" type .rendering)
          let template ← Recording.lift (Template.parse Informer.templateText)
          template.render context generator.systems generator.resolver : Recording String)
          middle := by
  obtain ⟨middle,read,unchanged⟩ := readTags_of_ok parsed
    ⟨.empty,[enter "binding template" type .binding]⟩
  exact ⟨middle,unchanged,(Recording.bind_of_ok rfl).trans (Recording.bind_of_ok read)⟩

theorem compose_of_obstacle (distinct : ImportTracker.OneToOne generator.aliases.pairs)
    {error : GenerationError} (found : generator.obstacle? type = some error) :
    ∃ trail, generator.compose type .empty = (.error error,trail) := by
  unfold obstacle? at found
  split at found
  next refusal refused =>
    cases found
    exact compose_of_malformed refused
  next tags parsed =>
    obtain ⟨middle,unrecorded,composed⟩ := compose_of_parsed parsed
    obtain ⟨trail,failed⟩ := Informer.bind_of_obstacle distinct found
      (unrecorded ▸ ImportTracker.restricts_empty _) tags
    exact ⟨trail,composed.trans (Recording.bind_of_error failed)⟩

theorem compose_of_clear (distinct : ImportTracker.OneToOne generator.aliases.pairs)
    (clear : generator.obstacle? type = none) :
    ∃ text trail, generator.compose type .empty = (.ok text,trail) ∧
      trail.imports.Restricts generator.aliases ∧
      trail.imports.pairs =
        Informer.needs generator.resolver generator.config.packages type.name.name := by
  unfold obstacle? at clear
  split at clear
  next refusal refused => cases clear
  next tags parsed =>
    obtain ⟨middle,unrecorded,composed⟩ := compose_of_parsed parsed
    obtain ⟨after,bound,gathers⟩ := Informer.bind_of_clear distinct clear
      (unrecorded ▸ ImportTracker.restricts_empty _) tags
    have pairs := gathers.pairs_eq
    rw [unrecorded,ImportTracker.pairs_empty,Set.empty_union] at pairs
    rw [Informer.parse_templateText,Recording.bind_of_ok bound] at composed
    exact ⟨_,_,composed.trans (Informer.render_segments ..),gathers.restricts,pairs⟩

theorem obstacle?_of_composed (distinct : ImportTracker.OneToOne generator.aliases.pairs)
    {text : String} {trail : Trail} (composed : generator.compose type .empty = (.ok text,trail)) :
    generator.obstacle? type = none := by
  cases found : generator.obstacle? type with
  | none => rfl
  | some error =>
    obtain ⟨_,failed⟩ := compose_of_obstacle distinct found
    rw [composed] at failed
    cases failed

theorem restricts_of_composed (distinct : ImportTracker.OneToOne generator.aliases.pairs)
    {text : String} {trail : Trail} (composed : generator.compose type .empty = (.ok text,trail)) :
    trail.imports.Restricts generator.aliases ∧
      trail.imports.pairs =
        Informer.needs generator.resolver generator.config.packages type.name.name := by
  have clear := obstacle?_of_composed distinct composed
  obtain ⟨_,_,succeeded,restricts,pairs⟩ := compose_of_clear distinct clear
  rw [composed] at succeeded
  cases succeeded
  exact ⟨restricts,pairs⟩

def needed (generator : InformerGenerator) : Set (String × String) :=
  Informer.needs generator.resolver generator.config.packages generator.target.name

/-- The aliases are different, and either nothing has been gathered or the imports of the target's
file have. -/
structure Sound (generator : InformerGenerator) : Prop where
  distinct : ImportTracker.OneToOne generator.aliases.pairs
  gathered : generator.imports = .empty ∨
    generator.imports.Consistent ∧ generator.imports.pairs = generator.needed

theorem create?_eq_some_iff {known : Universe} {config : GeneratorConfig} {target : Name} :
    create? known config target = some generator ↔
      AliasTable.Ends (Informer.aliasedPaths known config.packages [config.outputPackage])
        Informer.templateLocals ∧ create known config target = generator := by
  constructor
  · intro created
    obtain ⟨aliases,built,same⟩ := Option.bind_eq_some_iff.mp created
    obtain ⟨ends,rfl⟩ := AliasTable.build?_eq_some_iff.mp built
    exact ⟨ends,Option.some.inj same⟩
  · rintro ⟨ends,rfl⟩
    exact Option.bind_eq_some_iff.mpr ⟨_,AliasTable.build?_eq_some_iff.mpr ⟨ends,rfl⟩,rfl⟩

theorem sound_create {table : AliasTable} (distinct : ImportTracker.OneToOne table.pairs)
    (known : Universe) (config : GeneratorConfig) (target : Name) :
    ((create known config target).withAliases table).Sound :=
  ⟨distinct,.inl rfl⟩

theorem Sound.restricts (sound : generator.Sound) :
    generator.imports.Restricts generator.aliases := by
  rcases sound.gathered with fresh | ⟨consistent,pairs⟩
  · rw [fresh]
    exact ImportTracker.restricts_empty _
  · refine ⟨consistent,?_⟩
    rw [pairs]
    exact Resolver.needs_subset _

theorem Sound.merge_eq (sound : generator.Sound) {own : ImportTracker}
    (consistent : own.Consistent) (pairs : own.pairs = generator.needed) :
    generator.imports.merge own = (.ok (),own) := by
  rcases sound.gathered with fresh | ⟨known,same⟩
  · rw [fresh]
    exact consistent.empty_merge
  · have equal : generator.imports = own := known.ext consistent (same.trans pairs.symm)
    rw [equal]
    exact consistent.merge_self

theorem prepare_of_ne (apart : type.name ≠ generator.target) :
    (generator.prepare type).1 = .ok none := by
  have other : generator.applies type = false := beq_eq_false_iff_ne.mpr apart
  simp [prepare,other]

theorem prepare_of_error (target : type.name = generator.target) {error : GenerationError}
    {trail : Trail} (failed : generator.compose type .empty = (.error error,trail)) :
    (generator.prepare type).1 = .error error := by
  have applies : generator.applies type = true := beq_iff_eq.mpr target
  simp [prepare,applies,failed]

theorem Sound.prepare_of_ok (sound : generator.Sound) (target : type.name = generator.target)
    {text : String} {trail : Trail} (composed : generator.compose type .empty = (.ok text,trail)) :
    (generator.prepare type).1 = .ok (some (⟨text,trail.imports.lines⟩,trail.imports)) := by
  have applies : generator.applies type = true := beq_iff_eq.mpr target
  obtain ⟨restricts,pairs⟩ := restricts_of_composed sound.distinct composed
  rw [target] at pairs
  have merged := sound.merge_eq restricts.consistent pairs
  simp [prepare,applies,composed,merged]

theorem result_generate (generator : InformerGenerator) (type : TypeDescriptor) :
    (generator.generate type).result = (generator.prepare type).1.map (Option.map (·.1)) := by
  rcases prepared : generator.prepare type with ⟨error | (none | ⟨generated,merged⟩),events⟩ <;>
    simp [generate,prepared,Except.map]

theorem Sound.generated_of_clear (sound : generator.Sound) (target : type.name = generator.target)
    (clear : generator.obstacle? type = none) :
    ∃ file, (generator.generate type).result = .ok (some file) := by
  obtain ⟨text,trail,composed,_⟩ := compose_of_clear sound.distinct clear
  refine ⟨⟨text,trail.imports.lines⟩,?_⟩
  rw [result_generate,sound.prepare_of_ok target composed]
  rfl

/-- What a preparation comes to: the type is another one, or it has no file for some reason, or the
file is composed and its imports are what the generator has gathered afterwards. -/
theorem Sound.prepare_cases (sound : generator.Sound) (type : TypeDescriptor) :
    (type.name ≠ generator.target ∧ (generator.prepare type).1 = .ok none) ∨
    (type.name = generator.target ∧ ∃ error trail,
      generator.compose type .empty = (.error error,trail) ∧
      generator.obstacle? type = some error ∧ (generator.prepare type).1 = .error error) ∨
    (type.name = generator.target ∧ ∃ text trail,
      generator.compose type .empty = (.ok text,trail) ∧
      trail.imports.Restricts generator.aliases ∧ trail.imports.pairs = generator.needed ∧
      (generator.prepare type).1 = .ok (some (⟨text,trail.imports.lines⟩,trail.imports))) := by
  by_cases target : type.name = generator.target
  · right
    cases found : generator.obstacle? type with
    | some error =>
      obtain ⟨trail,failed⟩ := compose_of_obstacle sound.distinct found
      exact .inl ⟨target,error,trail,failed,rfl,prepare_of_error target failed⟩
    | none =>
      obtain ⟨text,trail,composed,restricts,pairs⟩ := compose_of_clear sound.distinct found
      rw [target] at pairs
      exact .inr ⟨target,text,trail,composed,restricts,pairs,sound.prepare_of_ok target composed⟩
  · exact .inl ⟨target,prepare_of_ne target⟩

end InformerGen.InformerGenerator
