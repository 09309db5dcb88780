import InformerGen.Proofs.Directive.TagSet
import InformerGen.Proofs.Generator
import InformerGen.Proofs.Recording

/-! What the comments on a type have to do with its file. They are read twice, once for the set of
directives and once for the name of the resource, but all that comes of the set is whether the type is
namespaced, and the name is the one that the set has as well. Two generations for types of one name
therefore run in parallel, from the binding on to the last line, and write different texts only where
the template has these two. -/
namespace InformerGen

namespace Resolver

open Recording

theorem parallel_qualify (resolver : Resolver) (path : String) :
    Parallel (resolver.qualify path) (resolver.qualify path)
      (resolver.qualifier? path) (resolver.qualifier? path) := by
  unfold qualify qualifier?
  split
  next home => exact parallel_pure none none
  next abroad =>
    cases resolver.aliases.alias? path with
    | none => exact parallel_lift nofun
    | some name => exact (parallel_recordImport path name).bind (parallel_pure _ _)

theorem parallel_resolve (resolver : Resolver) (reference : SymbolRef) :
    Parallel (resolver.resolve reference) (resolver.resolve reference)
      (resolver.symbol reference) (resolver.symbol reference) :=
  (parallel_lift fun () _ => rfl).bind ((resolver.parallel_qualify reference.package).bind
    ((parallel_report _ _).bind (parallel_pure _ _)))

end Resolver

namespace Informer

open Recording

theorem parallel_resolveAll (resolver : Resolver) (references : List (String × SymbolRef)) :
    Parallel (resolveAll resolver references) (resolveAll resolver references)
      (symbols resolver references) (symbols resolver references) := by
  induction references with
  | nil => exact parallel_pure _ _
  | cons entry rest ih =>
    exact (resolver.parallel_resolve entry.2).bind (ih.bind (parallel_pure _ _))

variable {config : GeneratorConfig} {resolver : Resolver} {first second : TypeDescriptor}

theorem parallel_bind (same : first.name = second.name) (firstTags secondTags : TagSet) :
    Parallel (bind config resolver first firstTags) (bind config resolver second secondTags)
      (context config resolver first firstTags) (context config resolver second secondTags) := by
  unfold bind context
  rw [same]
  exact (parallel_lift fun () _ => rfl).bind ((parallel_resolveAll resolver _).bind
    (parallel_pure _ _))

/-- The text of a file around the places for what directives say. -/
structure Frame where
  before : String
  after : String

/-- The comment on the scope of the resource and the constant under it, in their frame. -/
def Frame.fill (frame : Frame) (resource : String) (namespaced : Bool) : String :=
  frame.before ++ "// Namespaced reports whether " ++ resource ++
    " live in a namespace.\nconst Namespaced = " ++ (if namespaced then "true" else "false") ++
    frame.after

/-- The text for types of one name, whatever their directives are. -/
def frame (write : SymbolRef → String) (config : GeneratorConfig) (typeName plural : String) :
    Frame where
  before := String.join ((pieces write config typeName plural "" true).take 18) ++
    "(ctx, key\x7b\x7d, inf), inf.Informer()\n\x7d\n\n"
  after := String.join ((pieces write config typeName plural "" true).drop 22)

theorem fileText_eq_fill (write : SymbolRef → String) (config : GeneratorConfig)
    (typeName plural resource : String) (namespaced : Bool) :
    fileText write config typeName plural resource namespaced =
      (frame write config typeName plural).fill resource namespaced := by
  have parts : pieces write config typeName plural resource namespaced =
      (pieces write config typeName plural "" true).take 18 ++
        ["(ctx, key\x7b\x7d, inf), inf.Informer()\n\x7d\n\n" ++ "// Namespaced reports whether ",
          resource," live in a namespace.\nconst Namespaced = ",
          if namespaced then "true" else "false"] ++
        (pieces write config typeName plural "" true).drop 22 := rfl
  rw [fileText,parts,Frame.fill,frame,String.join_append,String.join_append]
  simp only [String.join_cons,String.join_nil,String.append_assoc,String.append_empty]

/-- The name of the resource where no directive gives one. -/
def defaultResource (config : GeneratorConfig) (typeName : String) : String :=
  Text.lowercase (Namer.plural config.naming.irregular typeName)

def frameFor (config : GeneratorConfig) (resolver : Resolver) (name : Name) : Frame :=
  let plural := Namer.excepting .doubled config.naming.exceptions
    (.capitalizedPlural config.naming.irregular)
  frame (fun reference => (resolver.symbol reference).text) config name.name
    (plural.nameOf (.plain name.package name.name))

theorem textFor_eq_fill {type : TypeDescriptor} {tags : TagSet}
    (parsed : TagSet.parse type.lines = .ok tags) :
    textFor config resolver type tags = (frameFor config resolver type.name).fill
      (tags.resourceName.getD (defaultResource config type.name.name)) tags.namespaced := by
  rw [textFor,fileText_eq_fill,Namer.nameOf_directed parsed]
  rfl

end Informer

namespace InformerGenerator

open Recording

variable {generator : InformerGenerator} {first second : TypeDescriptor}
  {firstTags secondTags : TagSet}

theorem parallel_readTags (firstParsed : TagSet.parse first.lines = .ok firstTags)
    (secondParsed : TagSet.parse second.lines = .ok secondTags) :
    Parallel (readTags first) (readTags second) firstTags secondTags := by
  unfold readTags
  rw [firstParsed,secondParsed]
  exact (parallel_reportAll _ _).bind (parallel_pure _ _)

theorem parallel_render (config : GeneratorConfig) (resolver : Resolver)
    (first second : TypeDescriptor) (firstTags secondTags : TagSet) :
    Parallel
      ((Template.mk Informer.segments).render (Informer.context config resolver first firstTags)
        (NameSystems.ofTables config.naming) resolver)
      ((Template.mk Informer.segments).render (Informer.context config resolver second secondTags)
        (NameSystems.ofTables config.naming) resolver)
      (Informer.textFor config resolver first firstTags)
      (Informer.textFor config resolver second secondTags) := by
  intro one other same
  rw [Informer.render_segments,Informer.render_segments]
  exact ⟨same,.inl ⟨rfl,rfl⟩⟩

theorem parallel_compose (same : first.name = second.name)
    (firstParsed : TagSet.parse first.lines = .ok firstTags)
    (secondParsed : TagSet.parse second.lines = .ok secondTags) :
    Parallel (generator.compose first) (generator.compose second)
      (Informer.textFor generator.config generator.resolver first firstTags)
      (Informer.textFor generator.config generator.resolver second secondTags) := by
  unfold compose
  rw [Informer.parse_templateText]
  refine (parallel_report _ _).bind ((parallel_readTags firstParsed secondParsed).bind ?_)
  refine (Informer.parallel_bind same firstTags secondTags).bind ?_
  refine (parallel_report _ _).bind ((parallel_report _ _).bind ?_)
  exact (parallel_lift fun _ found => (Except.ok.inj found).symm).bind
    (parallel_render generator.config generator.resolver first second firstTags secondTags)

/-- Two preparations for types of one name pass over both types, or fail for one reason, or yield texts
with the same imports, which are gathered alike. -/
theorem prepare_alike (same : first.name = second.name)
    (firstParsed : TagSet.parse first.lines = .ok firstTags)
    (secondParsed : TagSet.parse second.lines = .ok secondTags) :
    ((generator.prepare first).1 = .ok none ∧ (generator.prepare second).1 = .ok none) ∨
    (∃ error, (generator.prepare first).1 = .error error ∧
      (generator.prepare second).1 = .error error) ∨
    ∃ imports merged,
      (generator.prepare first).1 = .ok (some
        (⟨Informer.textFor generator.config generator.resolver first firstTags,imports⟩,merged)) ∧
      (generator.prepare second).1 = .ok (some
        (⟨Informer.textFor generator.config generator.resolver second secondTags,imports⟩,merged)) := by
  have alike : generator.applies first = generator.applies second := by
    rw [applies,applies,same]
  cases chosen : generator.applies second with
  | false =>
    rw [chosen] at alike
    exact .inl ⟨by simp [prepare,alike],by simp [prepare,chosen]⟩
  | true =>
    rw [chosen] at alike
    right
    obtain ⟨imports,outcome⟩ := parallel_compose same firstParsed secondParsed .empty .empty rfl
    rcases composed : generator.compose first .empty with ⟨result,trail⟩
    rcases other : generator.compose second .empty with ⟨otherResult,otherTrail⟩
    rw [composed,other] at imports outcome
    dsimp only at imports outcome
    rcases outcome with ⟨rfl,rfl⟩ | ⟨error,rfl,rfl⟩
    · rcases merged : generator.imports.merge otherTrail.imports with ⟨error | _,all⟩
      · left
        refine ⟨.imports error,?_,?_⟩ <;>
          simp [prepare,alike,chosen,composed,other,imports,merged]
      · right
        refine ⟨otherTrail.imports.lines,all,?_,?_⟩ <;>
          simp [prepare,alike,chosen,composed,other,imports,merged]
    · left
      refine ⟨error,?_,?_⟩ <;> simp [prepare,alike,chosen,composed,other]

/-- The comments on a type and its members have an influence on its file only by two directives: with
the same name for the resource and the same scope everything is the same. Otherwise the texts differ in
the comment and the constant that say these, and imports and failures are the same still. -/
theorem influence_of_directives (same : first.name = second.name)
    (firstParsed : TagSet.parse first.lines = .ok firstTags)
    (secondParsed : TagSet.parse second.lines = .ok secondTags) :
    (firstTags.nonNamespaced = secondTags.nonNamespaced →
      firstTags.resourceName = secondTags.resourceName →
      (generator.generate first).result = (generator.generate second).result) ∧
    (∀ error, (generator.generate first).result = .error error ↔
      (generator.generate second).result = .error error) ∧
    ∀ firstFile secondFile, (generator.generate first).result = .ok (some firstFile) →
      (generator.generate second).result = .ok (some secondFile) →
      firstFile.imports = secondFile.imports ∧ ∃ (frame : Informer.Frame) (plural : String),
        firstFile.text =
          frame.fill (firstTags.resourceName.getD plural) firstTags.namespaced ∧
        secondFile.text =
          frame.fill (secondTags.resourceName.getD plural) secondTags.namespaced := by
  have firstText := @Informer.textFor_eq_fill generator.config generator.resolver _ _ firstParsed
  have secondText := @Informer.textFor_eq_fill generator.config generator.resolver _ _ secondParsed
  rw [same] at firstText
  -- What the frame and the default are made of has no part in this, and is long.
  generalize Informer.frameFor generator.config generator.resolver second.name = frame at *
  generalize Informer.defaultResource generator.config second.name.name = plural at *
  rw [result_generate,result_generate]
  obtain ⟨one,other⟩ | ⟨error,one,other⟩ | ⟨imports,merged,one,other⟩ :=
    @prepare_alike generator _ _ _ _ same firstParsed secondParsed
  · rw [one,other]
    exact ⟨fun _ _ => rfl,fun _ => Iff.rfl,nofun⟩
  · rw [one,other]
    exact ⟨fun _ _ => rfl,fun _ => Iff.rfl,nofun⟩
  · rw [one,other,firstText,secondText]
    refine ⟨fun scope resource => ?_,fun _ => iff_of_false nofun nofun,?_⟩
    · rw [TagSet.namespaced,TagSet.namespaced,scope,resource]
    · rintro _ _ ⟨⟩ ⟨⟩
      exact ⟨rfl,frame,plural,rfl,rfl⟩

/-- Two types without namespaces, told apart by prose, verbs and members, and one that has a namespace
and a resource of another name. -/
theorem influence_on_gadgets :
    let gadget := TypeDescriptor.plain "api" "Gadget"
    let wordy : TypeDescriptor :=
      { gadget with comments := ["Gadget is one.","+genclient","+genclient:nonNamespaced",
        "+genclient:onlyVerbs=get,list"], members := ["Spec","Status"] }
    let terse : TypeDescriptor := { gadget with inherited := ["+genclient:nonNamespaced"] }
    let renamed : TypeDescriptor :=
      { gadget with inherited := ["+resourceName=gizmos"], comments := ["+genclient:quiet"] }
    let known := Universe.ofPackages [
      (Package.bare "c").declareType (.plain "c" "Interface"),
      (Package.bare "t/v1").declareType (.plain "t/v1" "GadgetInformer"),
      (Package.bare "f").declareFunction "Get",
      (Package.bare "i").declareType (.plain "i" "SharedInformerFactory"),
      (Package.bare "j").declareFunction "RegisterInformer",
      (Package.bare "k").declareType (.plain "k" "Informer")]
    let config : GeneratorConfig :=
      ⟨"out/gadget",⟨"example.com","v1",none⟩,⟨"c","t/v1","f","i","j","k"⟩,.standard⟩
    let paths := Informer.aliasedPaths known config.packages [config.outputPackage]
    let generator := (create known config gadget.name).withAliases
      (.build paths Informer.templateLocals)
    (generator.generate wordy).result = (generator.generate terse).result ∧
      ∃ file other, (generator.generate wordy).result = .ok (some file) ∧
        (generator.generate renamed).result = .ok (some other) ∧
        file.imports = other.imports ∧ ∃ (frame : Informer.Frame) (plural : String),
          file.text = frame.fill plural false ∧ other.text = frame.fill "gizmos" true := by
  intro gadget wordy terse renamed known config paths generator
  have wordyParsed : TagSet.parse wordy.lines = .ok
      ⟨true,true,false,false,[.create,.update,.updateStatus,.delete,.deleteCollection,.watch,
        .patch],none⟩ := by decide +kernel
  have terseParsed : TagSet.parse terse.lines = .ok ⟨false,true,false,false,[],none⟩ := by
    decide +kernel
  have renamedParsed : TagSet.parse renamed.lines =
      .ok ⟨false,false,false,false,[],some "gizmos"⟩ := by decide +kernel
  have ends : AliasTable.Ends paths Informer.templateLocals :=
    AliasTable.ends_of_spellable (by decide +kernel) _
  have sound : generator.Sound := sound_create ends.oneToOne known config gadget.name
  have wordyClear : generator.obstacle? wordy = none := by decide +kernel
  have renamedClear : generator.obstacle? renamed = none := by decide +kernel
  obtain ⟨file,generated⟩ := @Sound.generated_of_clear generator wordy sound rfl wordyClear
  obtain ⟨other,otherGenerated⟩ := @Sound.generated_of_clear generator renamed sound rfl renamedClear
  have alike := @influence_of_directives generator wordy terse _ _ rfl wordyParsed terseParsed
  have apart := @influence_of_directives generator wordy renamed _ _ rfl wordyParsed renamedParsed
  exact ⟨alike.1 rfl rfl,file,other,generated,otherGenerated,
    apart.2.2 file other generated otherGenerated⟩

end InformerGenerator

end InformerGen
