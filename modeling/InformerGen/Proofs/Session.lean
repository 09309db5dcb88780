import InformerGen.Session
import InformerGen.Proofs.Generator
import InformerGen.Proofs.Manifest
import InformerGen.Proofs.Universe

/-! What a session generates for one name. The aliases of the session cover every package that
generated code can refer to, no two of them are the same, and the template suits its bindings. What
remains that can go wrong is that the type is not declared, that its directives cannot be read, or
that a collaborator does not declare what it should. A generator makes aliases of its own first,
though, for other paths than the session does; whether it comes to its end depends on these too. -/
namespace InformerGen.Session

variable {manifest : Manifest} {session : Session} {name : Name} {type : TypeDescriptor}

def aliasedPaths (manifest : Manifest) : List String :=
  Informer.aliasedPaths manifest.known manifest.packages (outputs manifest manifest.known)

theorem build?_eq_some_iff : build? manifest = some session ↔
    AliasTable.Ends (aliasedPaths manifest) Informer.templateLocals ∧
      ofManifest manifest = session := by
  constructor
  · intro built
    obtain ⟨aliases,table,same⟩ := Option.bind_eq_some_iff.mp built
    obtain ⟨ends,rfl⟩ := AliasTable.build?_eq_some_iff.mp table
    exact ⟨ends,Option.some.inj same⟩
  · rintro ⟨ends,rfl⟩
    exact Option.bind_eq_some_iff.mpr ⟨_,AliasTable.build?_eq_some_iff.mpr ⟨ends,rfl⟩,rfl⟩

def generator (session : Session) (name : Name) : InformerGenerator :=
  (InformerGenerator.create session.known (session.config name) name).withAliases session.aliases

/-- The paths that the generator for a name makes aliases of its own for. Of the generated packages
these have only the one of the name. -/
def ownPaths (session : Session) (name : Name) : List String :=
  Informer.aliasedPaths session.known session.manifest.packages [session.packageFor name]

def Equipped (session : Session) (name : Name) : Prop :=
  AliasTable.Ends (session.ownPaths name) Informer.templateLocals

theorem generator?_eq_some_iff {generator : InformerGenerator} :
    session.generator? name = some generator ↔
      session.Equipped name ∧ session.generator name = generator := by
  constructor
  · intro made
    obtain ⟨created,first,same⟩ := Option.bind_eq_some_iff.mp made
    obtain ⟨ends,rfl⟩ := InformerGenerator.create?_eq_some_iff.mp first
    exact ⟨ends,Option.some.inj same⟩
  · rintro ⟨ends,rfl⟩
    exact Option.bind_eq_some_iff.mpr
      ⟨_,InformerGenerator.create?_eq_some_iff.mpr ⟨ends,rfl⟩,rfl⟩

theorem generator?_of_equipped (equipped : session.Equipped name) :
    session.generator? name = some (session.generator name) :=
  generator?_eq_some_iff.mpr ⟨equipped,rfl⟩

theorem generator?_of_not_equipped (unequipped : ¬session.Equipped name) :
    session.generator? name = none :=
  Option.eq_none_iff_forall_ne_some.mpr fun _ made =>
    unequipped (generator?_eq_some_iff.mp made).1

theorem package_of_reference (packages : PackagePaths) (typeName : String) :
    ∀ entry ∈ Informer.references packages typeName,
      entry.2.package ∈ packages.entries.map (·.2) ++ Resolver.prelude.map (·.package) := by
  simp [Informer.references,PackagePaths.entries,Resolver.prelude,SymbolRef.package,
    SymbolRef.ofType,SymbolRef.ofFunction]

theorem unaliased?_of_kept (kept : manifest.Kept) (name : Name) :
    ∀ entry ∈ Informer.references manifest.packages name.name,
      ((ofManifest manifest).generator name).resolver.unaliased? entry.2 = none := by
  intro entry member
  have covered := package_of_reference _ _ entry member
  have filled : entry.2.package ≠ "" := by
    rcases List.mem_append.mp covered with configured | standard
    · exact kept.ne_empty configured
    · intro empty
      rw [empty] at standard
      exact absurd standard (by decide)
  apply Resolver.unaliased?_eq_none_iff.mpr
  right
  apply AliasTable.alias?_isSome_iff.mpr
  refine ⟨?_,filled⟩
  rw [Informer.aliasedPaths,List.append_assoc,List.append_assoc,
    ← List.append_assoc _ _ (outputs _ _)]
  exact List.mem_append_right _ (List.mem_append_left _ covered)

theorem obstacle?_of_error (session : Session) (name : Name) {error : TagError}
    (refused : TagSet.parse type.lines = .error error) :
    (session.generator name).obstacle? type = some (.malformedTag error) := by
  rw [InformerGenerator.obstacle?,refused]

theorem obstacle?_of_ok (kept : manifest.Kept) (named : type.name = name) {tags : TagSet}
    (parsed : TagSet.parse type.lines = .ok tags) :
    ((ofManifest manifest).generator name).obstacle? type =
      ((Informer.collaborators manifest.packages name.name).find? fun symbol =>
        !manifest.known.declares symbol).map .unknownSymbol := by
  rw [InformerGenerator.obstacle?,parsed,named]
  exact Informer.obstacle?_of_aliased (unaliased?_of_kept kept name)

theorem sound_generator
    (ends : AliasTable.Ends (aliasedPaths manifest) Informer.templateLocals) (name : Name) :
    ((ofManifest manifest).generator name).Sound :=
  InformerGenerator.sound_create (Informer.oneToOne_aliasTable ends) _ _ _

theorem result_generate_of_unknown (unknown : session.known.type? name = none) :
    (session.generate name).result = .error (.undeclared name) := by
  rw [generate,unknown]
  rfl

theorem result_generate_of_not_equipped (found : session.known.type? name = some type)
    (unequipped : ¬session.Equipped name) : (session.generate name).result = .endless := by
  simp only [generate,found,generator?_of_not_equipped unequipped]

theorem result_generate_of_error (found : session.known.type? name = some type)
    (equipped : session.Equipped name) {error : GenerationError}
    (failed : ((session.generator name).generate type).result = .error error) :
    (session.generate name).result = .error (.generation name error) := by
  simp only [generate,found,generator?_of_equipped equipped,failed]

theorem result_generate_of_some (found : session.known.type? name = some type)
    (equipped : session.Equipped name) {generated : Generated}
    (delivered : ((session.generator name).generate type).result = .ok (some generated)) :
    (session.generate name).result =
      .ok (assemble name (session.packageFor name) generated) := by
  simp only [generate,found,generator?_of_equipped equipped,delivered]

/-- There is all that is needed to generate for a name. -/
structure Generable (session : Session) (name : Name) : Prop where
  readable : ∃ type tags, session.known.type? name = some type ∧
    TagSet.parse type.lines = .ok tags
  declared : ∀ symbol ∈ Informer.collaborators session.manifest.packages name.name,
    session.known.declares symbol = true

/-- The causes for which there is no file for a name. -/
inductive Refusal (session : Session) (name : Name) : SessionError → Prop
  | undeclared (unknown : session.known.type? name = none) :
      Refusal session name (.undeclared name)
  | malformed {type : TypeDescriptor} (found : session.known.type? name = some type)
      {error : TagError} (refused : TagSet.parse type.lines = .error error) :
      Refusal session name (.generation name (.malformedTag error))
  /-- The first of the symbols that are missing. -/
  | missing {type : TypeDescriptor} (found : session.known.type? name = some type)
      {tags : TagSet} (parsed : TagSet.parse type.lines = .ok tags) {symbol : SymbolRef}
      (first : (Informer.collaborators session.manifest.packages name.name).find?
        (fun symbol => !session.known.declares symbol) = some symbol) :
      Refusal session name (.generation name (.unknownSymbol symbol))

theorem Generable.not_refusal (generable : session.Generable name) (error : SessionError) :
    ¬ session.Refusal name error := by
  obtain ⟨type,tags,found,parsed⟩ := generable.readable
  intro refusal
  cases refusal with
  | undeclared unknown =>
    rw [found] at unknown
    cases unknown
  | malformed other refused =>
    rw [found] at other
    cases other
    rw [parsed] at refused
    cases refused
  | missing _ _ first =>
    have missing := List.find?_some first
    rw [generable.declared _ (List.mem_of_find?_eq_some first)] at missing
    cases missing

theorem Refusal.unique {error other : SessionError} (refusal : session.Refusal name error)
    (second : session.Refusal name other) : error = other := by
  cases refusal <;> cases second <;> simp_all

theorem generable_or_refusal (session : Session) (name : Name) :
    session.Generable name ∨ ∃ error, session.Refusal name error := by
  cases found : session.known.type? name with
  | none => exact .inr ⟨_,.undeclared found⟩
  | some type =>
    cases parsed : TagSet.parse type.lines with
    | error refusal => exact .inr ⟨_,.malformed found parsed⟩
    | ok tags =>
      cases missing : (Informer.collaborators session.manifest.packages name.name).find?
          fun symbol => !session.known.declares symbol with
      | some symbol => exact .inr ⟨_,.missing found parsed missing⟩
      | none =>
        refine .inl ⟨⟨type,tags,found,parsed⟩,fun symbol member => ?_⟩
        have declared := List.find?_eq_none.mp missing symbol member
        rwa [Bool.not_eq_true',Bool.not_eq_false] at declared

theorem Generable.generated (kept : manifest.Kept)
    (ends : AliasTable.Ends (aliasedPaths manifest) Informer.templateLocals)
    (equipped : (ofManifest manifest).Equipped name)
    (generable : (ofManifest manifest).Generable name) :
    ∃ file, ((ofManifest manifest).generate name).result = .ok file := by
  obtain ⟨type,tags,found,parsed⟩ := generable.readable
  have named : type.name = name := (Universe.named_ofManifest manifest).name_of_type? found
  have clear : ((ofManifest manifest).generator name).obstacle? type = none := by
    rw [obstacle?_of_ok kept named parsed,Option.map_eq_none_iff,List.find?_eq_none]
    intro symbol member
    rw [Bool.not_eq_true',Bool.not_eq_false]
    exact generable.declared symbol member
  obtain ⟨file,delivered⟩ := (sound_generator ends name).generated_of_clear named clear
  exact ⟨_,result_generate_of_some found equipped delivered⟩

theorem result_generate_of_obstacle
    (ends : AliasTable.Ends (aliasedPaths manifest) Informer.templateLocals)
    (equipped : (ofManifest manifest).Equipped name)
    (found : (ofManifest manifest).known.type? name = some type) {error : GenerationError}
    (obstacle : ((ofManifest manifest).generator name).obstacle? type = some error) :
    ((ofManifest manifest).generate name).result = .error (.generation name error) := by
  have named : type.name = name := (Universe.named_ofManifest manifest).name_of_type? found
  obtain ⟨trail,failed⟩ :=
    InformerGenerator.compose_of_obstacle (sound_generator ends name).distinct obstacle
  apply result_generate_of_error found equipped
  rw [InformerGenerator.result_generate,InformerGenerator.prepare_of_error named failed]
  rfl

theorem Refusal.failed (kept : manifest.Kept)
    (ends : AliasTable.Ends (aliasedPaths manifest) Informer.templateLocals)
    (equipped : (ofManifest manifest).Equipped name) {error : SessionError}
    (refusal : (ofManifest manifest).Refusal name error) :
    ((ofManifest manifest).generate name).result = .error error := by
  cases refusal with
  | undeclared unknown => exact result_generate_of_unknown unknown
  | malformed found refused =>
    exact result_generate_of_obstacle ends equipped found (obstacle?_of_error _ _ refused)
  | missing found parsed first =>
    have named := (Universe.named_ofManifest manifest).name_of_type? found
    apply result_generate_of_obstacle ends equipped found
    rw [obstacle?_of_ok kept named parsed]
    exact congrArg (Option.map GenerationError.unknownSymbol) first

/-- What a generation comes to: the file if there is all that is needed, and otherwise the cause. -/
structure Answers (session : Session) (name : Name) : Prop where
  ok_iff : (∃ file, (session.generate name).result = .ok file) ↔ session.Generable name
  error_iff : ∀ error, (session.generate name).result = .error error ↔ session.Refusal name error

theorem answers_of_ok {file : InformerFile} (succeeded : (session.generate name).result = .ok file)
    (generable : session.Generable name) : session.Answers name where
  ok_iff := iff_of_true ⟨file,succeeded⟩ generable
  error_iff error := by
    rw [succeeded]
    exact iff_of_false (nomatch ·) (generable.not_refusal error)

theorem answers_of_error {error : SessionError}
    (failed : (session.generate name).result = .error error)
    (refusal : session.Refusal name error) : session.Answers name where
  ok_iff := by
    rw [failed]
    exact iff_of_false (fun ⟨_,same⟩ => nomatch same) fun generable =>
      generable.not_refusal error refusal
  error_iff other := by
    rw [failed]
    constructor
    · rintro ⟨⟩
      exact refusal
    · intro second
      rw [refusal.unique second]

theorem Answers.result_ne_endless (answers : session.Answers name) :
    (session.generate name).result ≠ .endless := by
  intro endless
  rcases session.generable_or_refusal name with generable | ⟨error,refusal⟩
  · obtain ⟨file,succeeded⟩ := answers.ok_iff.mpr generable
    rw [endless] at succeeded
    cases succeeded
  · have failed := (answers.error_iff error).mpr refusal
    rw [endless] at failed
    cases failed

/-- In a session on a manifest that keeps the rules, a generation comes to an end exactly when the
name is not declared or its generator gets through the aliases of its own. It has a file then exactly
when the type is declared, its directives can be read and all collaborators declare what they should,
and otherwise it fails for the first of these that does not hold and never for anything else. In
particular the generator takes the type for its target. -/
theorem generate_answers_iff (accepted : manifest.check = .ok ())
    (built : build? manifest = some session) (name : Name) :
    (session.Answers name ↔ session.known.type? name = none ∨ session.Equipped name) ∧
    ((session.generate name).result = .endless ↔
      ¬(session.known.type? name = none ∨ session.Equipped name)) ∧
    ∀ type generator, session.known.type? name = some type →
      session.generator? name = some generator → generator.applies type = true := by
  obtain ⟨ends,rfl⟩ := build?_eq_some_iff.mp built
  have kept : manifest.Kept := Manifest.check_eq_ok_iff.mp accepted
  have answers (enough : (ofManifest manifest).known.type? name = none ∨
      (ofManifest manifest).Equipped name) : (ofManifest manifest).Answers name := by
    rcases enough with unknown | equipped
    · exact answers_of_error (result_generate_of_unknown unknown) (.undeclared unknown)
    · rcases (ofManifest manifest).generable_or_refusal name with generable | ⟨error,refusal⟩
      · obtain ⟨file,succeeded⟩ := generable.generated kept ends equipped
        exact answers_of_ok succeeded generable
      · exact answers_of_error (refusal.failed kept ends equipped) refusal
  have endless (short : ¬((ofManifest manifest).known.type? name = none ∨
      (ofManifest manifest).Equipped name)) :
      ((ofManifest manifest).generate name).result = .endless := by
    obtain ⟨declared,unequipped⟩ := not_or.mp short
    obtain ⟨type,found⟩ := Option.ne_none_iff_exists'.mp declared
    exact result_generate_of_not_equipped found unequipped
  refine ⟨⟨fun given => ?_,answers⟩,⟨fun unending enough => ?_,endless⟩,?_⟩
  · by_contra short
    exact given.result_ne_endless (endless short)
  · exact (answers enough).result_ne_endless unending
  · intro type generator found made
    obtain ⟨_,rfl⟩ := generator?_eq_some_iff.mp made
    exact beq_iff_eq.mpr ((Universe.named_ofManifest manifest).name_of_type? found)

/-- A manifest whose collaborators are one package. -/
theorem one_package_answers :
    let declared : List TypeEntry := ["T","TInformer","Interface","Informer",
      "SharedInformerFactory"].map fun name => ⟨name,[],[],[]⟩
    let manifest : Manifest := ⟨"o",⟨"g","v",none⟩,⟨"c","c","c","c","c","c"⟩,.standard,
      [⟨"c",declared,["Get","RegisterInformer"],[]⟩]⟩
    manifest.check = .ok () ∧ build? manifest = some (ofManifest manifest) ∧
      (∃ file, ((ofManifest manifest).generate ⟨"c","T"⟩).result = .ok file) ∧
      ((ofManifest manifest).generate ⟨"c","Informer"⟩).result = .error (.generation
        ⟨"c","Informer"⟩ (.unknownSymbol (.ofType "c" "InformerInformer"))) := by
  intro declared manifest
  have accepted : manifest.check = .ok () := by decide +kernel
  have ends : AliasTable.Ends (aliasedPaths manifest) Informer.templateLocals :=
    AliasTable.ends_of_spellable (by decide +kernel) _
  have built : build? manifest = some (ofManifest manifest) := build?_eq_some_iff.mpr ⟨ends,rfl⟩
  have equipped : (ofManifest manifest).Equipped ⟨"c","T"⟩ :=
    AliasTable.ends_of_spellable (by decide +kernel) _
  have otherEquipped : (ofManifest manifest).Equipped ⟨"c","Informer"⟩ :=
    AliasTable.ends_of_spellable (by decide +kernel) _
  have found : (ofManifest manifest).known.type? ⟨"c","T"⟩ = some (.plain "c" "T") := by
    decide +kernel
  have otherFound : (ofManifest manifest).known.type? ⟨"c","Informer"⟩ =
      some (.plain "c" "Informer") := by decide +kernel
  have untagged : TagSet.parse [] = .ok ⟨false,false,false,false,[],none⟩ := by decide +kernel
  have generable : (ofManifest manifest).Generable ⟨"c","T"⟩ :=
    ⟨⟨_,_,found,untagged⟩,by decide +kernel⟩
  have refusal : (ofManifest manifest).Refusal ⟨"c","Informer"⟩ (.generation ⟨"c","Informer"⟩
      (.unknownSymbol (.ofType "c" "InformerInformer"))) :=
    .missing otherFound untagged (by decide +kernel)
  obtain ⟨succeeds,_⟩ := generate_answers_iff accepted built ⟨"c","T"⟩
  obtain ⟨fails,_⟩ := generate_answers_iff accepted built ⟨"c","Informer"⟩
  exact ⟨accepted,built,(succeeds.mpr (.inr equipped)).ok_iff.mpr generable,
    ((fails.mpr (.inr otherEquipped)).error_iff _).mpr refusal⟩

/-- Both types of the session are to be generated, and there is all that is needed for it. In the
session's table the package generated for the second one drives another path away from `zed`; the
generator for the first one does not know of that package, so this path and a third one meet there,
and the third one moves on to `+zed`, which is no identifier with any number. -/
theorem eligible_type_endless :
    let declared : List TypeEntry := ["AbInformer","ZedInformer","Interface","Informer",
      "SharedInformerFactory"].map fun name => ⟨name,[],[],[]⟩
    let manifest : Manifest := ⟨"o",⟨"g","v",none⟩,⟨"c","c","c","c","c","c"⟩,.standard,
      [⟨"c",⟨"Ab",["+genclient"],[],[]⟩::⟨"Zed",["+genclient"],[],[]⟩::declared,
        ["Get","RegisterInformer"],[]⟩,⟨"+/ze/d",[],[],[]⟩,⟨"d",[],[],[]⟩,⟨"x/b/zed",[],[],[]⟩]⟩
    manifest.check = .ok () ∧ build? manifest = some (ofManifest manifest) ∧
      (ofManifest manifest).Generable ⟨"c","Ab"⟩ ∧
      ((ofManifest manifest).generate ⟨"c","Ab"⟩).result = .endless ∧
      ¬(ofManifest manifest).Answers ⟨"c","Ab"⟩ := by
  intro declared manifest
  have ends : AliasTable.Ends (aliasedPaths manifest) Informer.templateLocals :=
    AliasTable.ends_iff_wellSpelled.mpr (by decide +kernel)
  have unequipped : ¬(ofManifest manifest).Equipped ⟨"c","Ab"⟩ := by
    rw [Equipped,AliasTable.ends_iff_wellSpelled]
    decide +kernel
  have found : (ofManifest manifest).known.type? ⟨"c","Ab"⟩ =
      some ⟨⟨"c","Ab"⟩,["+genclient"],[],[]⟩ := by decide +kernel
  have tagged : TagSet.parse ["+genclient"] = .ok ⟨true,false,false,false,[],none⟩ := by
    decide +kernel
  have endless := result_generate_of_not_equipped found unequipped
  exact ⟨by decide +kernel,build?_eq_some_iff.mpr ⟨ends,rfl⟩,
    ⟨⟨_,_,found,tagged⟩,by decide +kernel⟩,endless,fun answers => answers.result_ne_endless endless⟩

end InformerGen.Session
