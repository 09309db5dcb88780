import InformerGen.Proofs.Generator
import InformerGen.Proofs.Sink

/-! Calls on one generator, one after the other. A call either delivers the file and leaves the
generator with the imports of that file, or it leaves the generator as it was. Since these imports
are the same for every call that delivers, no call has an influence on the answer to a later one. -/
namespace InformerGen

inductive GeneratorCall where
  | generate (type : TypeDescriptor)
  | write (type : TypeDescriptor) (sink : Sink)

inductive GeneratorAnswer where
  | generated (result : Except GenerationError (Option Generated))
  | written (result : Except GenerationError Bool) (delivery : Delivery)

namespace GeneratorAnswer

def delivers : GeneratorAnswer → Bool
  | generated (.ok (some _)) => true
  | written (.ok true) _ => true
  | _ => false

def error? : GeneratorAnswer → Option GenerationError
  | generated (.error error) => some error
  | written (.error error) _ => some error
  | _ => none

end GeneratorAnswer

namespace GeneratorCall

def type : GeneratorCall → TypeDescriptor
  | generate type => type
  | write type _ => type

/-- What becomes of a prepared file: the answer, and the imports that the generator takes up. -/
def reply : GeneratorCall → Except GenerationError (Option (Generated × ImportTracker)) →
    GeneratorAnswer × Option ImportTracker
  | generate _,.error error => (.generated (.error error),none)
  | generate _,.ok none => (.generated (.ok none),none)
  | generate _,.ok (some (generated,merged)) => (.generated (.ok (some generated)),some merged)
  | write _ _,.error error => (.written (.error error) ⟨[],false⟩,none)
  | write _ _,.ok none => (.written (.ok false) ⟨[],true⟩,none)
  | write _ sink,.ok (some (generated,merged)) =>
    let delivery := sink.deliver generated.text.toUTF8.toList
    if delivery.complete then (.written (.ok true) delivery,some merged)
    else (.written (.error .unwritten) delivery,none)

theorem reply_error (call : GeneratorCall) (error : GenerationError) :
    (call.reply (.error error)).1.error? = some error ∧
      (call.reply (.error error)).1.delivers = false ∧ (call.reply (.error error)).2 = none := by
  cases call <;> exact ⟨rfl,rfl,rfl⟩

theorem reply_none (call : GeneratorCall) :
    (call.reply (.ok none)).1.error? = none ∧
      (call.reply (.ok none)).1.delivers = false ∧ (call.reply (.ok none)).2 = none := by
  cases call <;> exact ⟨rfl,rfl,rfl⟩

theorem reply_some (call : GeneratorCall) (generated : Generated) (merged : ImportTracker) :
    ((call.reply (.ok (some (generated,merged)))).1.delivers = true ∧
      (call.reply (.ok (some (generated,merged)))).1.error? = none ∧
      (call.reply (.ok (some (generated,merged)))).2 = some merged) ∨
    ((call.reply (.ok (some (generated,merged)))).1.delivers = false ∧
      (call.reply (.ok (some (generated,merged)))).1.error? = some .unwritten ∧
      (call.reply (.ok (some (generated,merged)))).2 = none) := by
  cases call with
  | generate type => exact .inl ⟨rfl,rfl,rfl⟩
  | write type sink =>
    unfold reply
    dsimp only
    split
    · exact .inl ⟨rfl,rfl,rfl⟩
    · exact .inr ⟨rfl,rfl,rfl⟩

end GeneratorCall

namespace InformerGenerator

def perform (generator : InformerGenerator) : GeneratorCall → GeneratorAnswer × InformerGenerator
  | .generate type =>
    let outcome := generator.generate type
    (.generated outcome.result,outcome.next)
  | .write type sink =>
    let (outcome,delivery) := generator.write type sink
    (.written outcome.result delivery,outcome.next)

def after (generator : InformerGenerator) (calls : List GeneratorCall) : InformerGenerator :=
  calls.foldl (fun current call => (current.perform call).2) generator

def gathering (generator : InformerGenerator) (imports : ImportTracker) : InformerGenerator :=
  { generator with imports }

variable {generator : InformerGenerator}

theorem perform_eq (generator : InformerGenerator) (call : GeneratorCall) :
    generator.perform call =
      ((call.reply (generator.prepare call.type).1).1,
        ((call.reply (generator.prepare call.type).1).2.map generator.gathering).getD
          generator) := by
  cases call with
  | generate type =>
    rcases prepared : generator.prepare type with ⟨error | (none | ⟨generated,merged⟩),events⟩ <;>
      simp [perform,generate,GeneratorCall.type,GeneratorCall.reply,gathering,prepared]
  | write type sink =>
    rcases prepared : generator.prepare type with ⟨error | (none | ⟨generated,merged⟩),events⟩
    · simp [perform,write,GeneratorCall.type,GeneratorCall.reply,prepared]
    · simp [perform,write,GeneratorCall.type,GeneratorCall.reply,prepared]
    · simp only [perform,write,GeneratorCall.type,GeneratorCall.reply,prepared]
      split <;> rfl

theorem compose_congr {other : InformerGenerator} (config : other.config = generator.config)
    (resolver : other.resolver = generator.resolver) (type : TypeDescriptor) (trail : Trail) :
    other.compose type trail = generator.compose type trail := by
  have systems : other.systems = generator.systems := by rw [systems,systems,config]
  unfold compose
  rw [config,resolver,systems]

theorem compose_gathering (generator : InformerGenerator) (imports : ImportTracker)
    (type : TypeDescriptor) (trail : Trail) :
    (generator.gathering imports).compose type trail = generator.compose type trail := by
  -- true by definition as well, but that check would go through the reading of the template
  have config : (generator.gathering imports).config = generator.config := rfl
  have resolver : (generator.gathering imports).resolver = generator.resolver := rfl
  exact compose_congr config resolver type trail

theorem Sound.gathering (sound : generator.Sound) {imports : ImportTracker}
    (consistent : imports.Consistent) (pairs : imports.pairs = generator.needed) :
    (generator.gathering imports).Sound :=
  ⟨sound.distinct,.inr ⟨consistent,pairs⟩⟩

theorem Sound.prepare_gathering (sound : generator.Sound) {imports : ImportTracker}
    (other : (generator.gathering imports).Sound) (type : TypeDescriptor) :
    ((generator.gathering imports).prepare type).1 = (generator.prepare type).1 := by
  rcases sound.prepare_cases type with ⟨apart,prepared⟩ |
    ⟨target,error,trail,failed,_,prepared⟩ | ⟨target,text,trail,composed,_,_,prepared⟩
  · rw [prepared]
    exact prepare_of_ne apart
  · rw [prepared]
    rw [← compose_gathering generator imports] at failed
    have same : type.name = (generator.gathering imports).target := target
    exact prepare_of_error same failed
  · rw [prepared]
    rw [← compose_gathering generator imports] at composed
    have same : type.name = (generator.gathering imports).target := target
    exact other.prepare_of_ok same composed

theorem Sound.perform_cases (sound : generator.Sound) (call : GeneratorCall) :
    ((generator.perform call).1.delivers = false ∧ (generator.perform call).2 = generator) ∨
    ((generator.perform call).1.delivers = true ∧ ∃ text trail,
      call.type.name = generator.target ∧
      generator.compose call.type .empty = (.ok text,trail) ∧
      trail.imports.Consistent ∧ trail.imports.pairs = generator.needed ∧
      (generator.prepare call.type).1 =
        .ok (some (⟨text,trail.imports.lines⟩,trail.imports)) ∧
      (generator.perform call).2 = generator.gathering trail.imports) := by
  rw [perform_eq]
  rcases sound.prepare_cases call.type with ⟨_,prepared⟩ |
    ⟨_,error,_,_,_,prepared⟩ | ⟨target,text,trail,composed,restricts,pairs,prepared⟩
  · obtain ⟨_,refused,kept⟩ := call.reply_none
    rw [prepared,kept]
    exact .inl ⟨refused,rfl⟩
  · obtain ⟨_,refused,kept⟩ := call.reply_error error
    rw [prepared,kept]
    exact .inl ⟨refused,rfl⟩
  · rcases call.reply_some ⟨text,trail.imports.lines⟩ trail.imports with
      ⟨delivered,_,taken⟩ | ⟨refused,_,kept⟩
    · rw [prepared,taken]
      exact .inr ⟨delivered,text,trail,target,composed,restricts.consistent,pairs,rfl,rfl⟩
    · rw [prepared,kept]
      exact .inl ⟨refused,rfl⟩

theorem Sound.error?_perform_ne (sound : generator.Sound) (call : GeneratorCall)
    (error : ImportError) : (generator.perform call).1.error? ≠ some (.imports error) := by
  rw [perform_eq]
  rcases sound.prepare_cases call.type with ⟨_,prepared⟩ |
    ⟨_,obstacle,_,_,found,prepared⟩ | ⟨_,text,trail,_,_,_,prepared⟩
  · rw [prepared,call.reply_none.1]
    simp
  · rw [prepared,(call.reply_error obstacle).1,← found]
    exact obstacle?_ne_imports
  · rw [prepared]
    rcases call.reply_some ⟨text,trail.imports.lines⟩ trail.imports with ⟨_,told,_⟩ | ⟨_,told,_⟩ <;>
      simp [told]

theorem Sound.imports_of_generated (sound : generator.Sound) {call : GeneratorCall}
    {file : Generated} (answered : (generator.perform call).1 = .generated (.ok (some file))) :
    file.imports = (generator.perform call).2.imports.lines ∧
      (generator.perform call).2.imports.Consistent ∧
      (generator.perform call).2.imports.pairs = (generator.perform call).2.needed := by
  rcases sound.perform_cases call with ⟨refused,_⟩ |
    ⟨_,text,trail,_,_,consistent,pairs,prepared,next⟩
  · rw [answered] at refused
    cases refused
  · rw [perform_eq,prepared] at answered
    rw [next]
    refine ⟨?_,consistent,pairs⟩
    cases call with
    | generate type =>
      cases answered
      rfl
    | write type sink =>
      unfold GeneratorCall.reply at answered
      dsimp only at answered
      split at answered <;> cases answered

theorem Sound.perform (sound : generator.Sound) (call : GeneratorCall) :
    (generator.perform call).2.Sound ∧
      ∃ imports, (generator.perform call).2 = generator.gathering imports := by
  rcases sound.perform_cases call with ⟨_,kept⟩ | ⟨_,text,trail,_,_,consistent,pairs,_,next⟩
  · rw [kept]
    exact ⟨sound,generator.imports,rfl⟩
  · rw [next]
    exact ⟨sound.gathering consistent pairs,_,rfl⟩

theorem Sound.after (sound : generator.Sound) (calls : List GeneratorCall) :
    (generator.after calls).Sound ∧
      ∃ imports, generator.after calls = generator.gathering imports := by
  induction calls generalizing generator with
  | nil => exact ⟨sound,generator.imports,rfl⟩
  | cons call rest ih =>
    obtain ⟨next,imports,same⟩ := sound.perform call
    obtain ⟨last,others,reached⟩ := ih next
    refine ⟨last,others,?_⟩
    exact reached.trans (by rw [same]; rfl)

theorem Sound.perform_of_gathered (sound : generator.Sound)
    (consistent : generator.imports.Consistent) (pairs : generator.imports.pairs = generator.needed)
    (call : GeneratorCall) : (generator.perform call).2 = generator := by
  rcases sound.perform_cases call with ⟨_,kept⟩ | ⟨_,text,trail,_,_,own,ownPairs,_,next⟩
  · exact kept
  · have same : trail.imports = generator.imports := own.ext consistent (ownPairs.trans pairs.symm)
    rw [next,same]
    rfl

theorem Sound.after_of_gathered (sound : generator.Sound)
    (consistent : generator.imports.Consistent) (pairs : generator.imports.pairs = generator.needed)
    (calls : List GeneratorCall) : generator.after calls = generator := by
  induction calls with
  | nil => rfl
  | cons call rest ih =>
    rw [InformerGenerator.after,List.foldl_cons,sound.perform_of_gathered consistent pairs]
    exact ih

theorem write_of_error {type : TypeDescriptor} {error : GenerationError}
    (prepared : (generator.prepare type).1 = .error error) (sink : Sink) :
    generator.write type sink =
      (⟨.error error,(generator.prepare type).2,generator⟩,⟨[],false⟩) := by
  rcases whole : generator.prepare type with ⟨result,events⟩
  rw [whole] at prepared
  cases prepared
  simp [write,whole]

theorem write_of_none {type : TypeDescriptor} (prepared : (generator.prepare type).1 = .ok none)
    (sink : Sink) :
    generator.write type sink =
      (⟨.ok false,(generator.prepare type).2,generator⟩,⟨[],true⟩) := by
  rcases whole : generator.prepare type with ⟨result,events⟩
  rw [whole] at prepared
  cases prepared
  simp [write,whole]

theorem write_eq_generate {type : TypeDescriptor} {sink : Sink}
    (room : ∀ generated, (generator.generate type).result = .ok (some generated) →
      (sink.deliver generated.text.toUTF8.toList).complete = true) :
    (generator.write type sink).1.result = (generator.generate type).result.map Option.isSome ∧
      (generator.write type sink).1.next = (generator.generate type).next ∧
      ∀ generated, (generator.generate type).result = .ok (some generated) →
        (generator.write type sink).2.accepted = generated.text.toUTF8.toList := by
  rcases prepared : generator.prepare type with ⟨error | (none | ⟨generated,merged⟩),events⟩
  · simp [generate,write,prepared,Except.map]
  · simp [generate,write,prepared,Except.map]
  · have whole := room generated (by simp [generate,prepared])
    simp only [generate,write,prepared,whole,if_true]
    refine ⟨rfl,trivial,?_⟩
    rintro _ ⟨⟩
    exact Sink.deliver_accepted whole

/-- A generator that has been used stands to the same generator before its use in this way. -/
structure Steady (fresh used : InformerGenerator) : Prop where
  skipped : ∀ call : GeneratorCall, call.type.name ≠ fresh.target →
    (used.perform call).1.error? = none ∧ (used.perform call).1.delivers = false ∧
      (used.perform call).2 = used
  failed : ∀ (call : GeneratorCall) error trail, call.type.name = fresh.target →
    fresh.compose call.type .empty = (.error error,trail) →
    (used.perform call).1.error? = some error ∧ (used.perform call).2 = used
  unwritten : ∀ type sink text trail, type.name = fresh.target →
    fresh.compose type .empty = (.ok text,trail) →
    (sink.deliver text.toUTF8.toList).complete = false →
    used.perform (.write type sink) =
      (.written (.error .unwritten) (sink.deliver text.toUTF8.toList),used)
  /-- No sink is called before there is a text. -/
  untouched : ∀ type, (type.name ≠ fresh.target ∨
      ∃ error trail, fresh.compose type .empty = (.error error,trail)) →
    ∀ sink other, (used.write type sink).2.accepted = [] ∧
      used.write type sink = used.write type other
  generates : ∀ type, type.name = fresh.target → fresh.obstacle? type = none →
    ∃ text trail, fresh.compose type .empty = (.ok text,trail) ∧
      (used.generate type).result = .ok (some ⟨text,trail.imports.lines⟩)
  answer_eq : ∀ call, (used.perform call).1 = (fresh.perform call).1
  agree : ∀ type sink, (∀ generated, (used.generate type).result = .ok (some generated) →
      (sink.deliver generated.text.toUTF8.toList).complete = true) →
    (used.write type sink).1.result = (used.generate type).result.map Option.isSome ∧
      (used.write type sink).1.next = (used.generate type).next ∧
      ∀ generated, (used.generate type).result = .ok (some generated) →
        (used.write type sink).2.accepted = generated.text.toUTF8.toList
  merges : ∀ type text trail, type.name = fresh.target →
    fresh.compose type .empty = (.ok text,trail) →
    (used.imports.merge trail.imports).1 = .ok ()
  /-- From the first file on the imports are those of that file. -/
  settles : ∀ call : GeneratorCall, (used.perform call).1.delivers = true →
    ∃ text trail, fresh.compose call.type .empty = (.ok text,trail) ∧
      (used.generate call.type).result = .ok (some ⟨text,trail.imports.lines⟩) ∧
      ∀ later, ((used.perform call).2.after later).imports = trail.imports

theorem Sound.steady {fresh : InformerGenerator} {imports : ImportTracker} (sound : fresh.Sound)
    (used : (fresh.gathering imports).Sound) : Steady fresh (fresh.gathering imports) := by
  have preparedOf (type : TypeDescriptor) := sound.prepare_gathering used type
  constructor
  case skipped =>
    intro call apart
    obtain ⟨quiet,refused,kept⟩ := call.reply_none
    rw [perform_eq,preparedOf,prepare_of_ne apart,kept]
    exact ⟨quiet,refused,rfl⟩
  case failed =>
    intro call error trail target failed
    obtain ⟨told,_,kept⟩ := call.reply_error error
    rw [perform_eq,preparedOf,prepare_of_error target failed,kept]
    exact ⟨told,rfl⟩
  case unwritten =>
    intro type sink text trail target composed short
    have prepared := sound.prepare_of_ok target composed
    rw [perform_eq,preparedOf,GeneratorCall.type,prepared]
    simp only [GeneratorCall.reply,short,Bool.false_eq_true,if_false]
    rfl
  case untouched =>
    intro type nothing sink other
    have prepared : (∃ error, (fresh.prepare type).1 = .error error) ∨
        (fresh.prepare type).1 = .ok none := by
      by_cases target : type.name = fresh.target
      · rcases nothing with apart | ⟨error,trail,failed⟩
        · exact absurd target apart
        · exact .inl ⟨error,prepare_of_error target failed⟩
      · exact .inr (prepare_of_ne target)
    rw [← preparedOf] at prepared
    rcases prepared with ⟨error,failed⟩ | skipped
    · rw [write_of_error failed sink,write_of_error failed other]
      exact ⟨rfl,rfl⟩
    · rw [write_of_none skipped sink,write_of_none skipped other]
      exact ⟨rfl,rfl⟩
  case generates =>
    intro type target clear
    obtain ⟨text,trail,composed,_⟩ := compose_of_clear sound.distinct clear
    refine ⟨text,trail,composed,?_⟩
    rw [result_generate,preparedOf,sound.prepare_of_ok target composed]
    rfl
  case answer_eq =>
    intro call
    rw [perform_eq,perform_eq fresh,preparedOf]
  case agree =>
    intro type sink room
    exact write_eq_generate room
  case merges =>
    intro type text trail target composed
    obtain ⟨restricts,pairs⟩ := restricts_of_composed sound.distinct composed
    rw [target] at pairs
    rw [used.merge_eq restricts.consistent pairs]
  case settles =>
    intro call delivered
    rcases used.perform_cases call with ⟨refused,_⟩ |
      ⟨_,text,trail,target,composed,consistent,pairs,prepared,next⟩
    · rw [delivered] at refused
      cases refused
    · have settled := used.gathering consistent pairs
      rw [compose_gathering] at composed
      refine ⟨text,trail,composed,?_,fun later => ?_⟩
      · rw [result_generate,prepared]
        rfl
      · rw [next,settled.after_of_gathered consistent pairs]
        rfl

/-- A generator stays steady over all calls, given a table of aliases that could be built. -/
theorem steady_after_calls {paths reserved : List String} (ends : AliasTable.Ends paths reserved)
    (known : Universe) (config : GeneratorConfig) (target : Name) (calls : List GeneratorCall) :
    let fresh := (create known config target).withAliases (.build paths reserved)
    Steady fresh (fresh.after calls) := by
  intro fresh
  have sound : fresh.Sound := sound_create ends.oneToOne known config target
  obtain ⟨used,imports,same⟩ := sound.after calls
  rw [same] at used ⊢
  exact sound.steady used

/-- Calls that fail, that are passed over and that deliver, in the middle of each other. -/
theorem steady_after_mixed_calls :
    let gadget := TypeDescriptor.plain "api" "Gadget"
    let misread : TypeDescriptor := { gadget with comments := ["+genclient=yes"] }
    let known := Universe.ofPackages [
      (Package.bare "c").declareType (.plain "c" "Interface"),
      (Package.bare "t/v1").declareType (.plain "t/v1" "GadgetInformer"),
      (Package.bare "f").declareFunction "Get",
      (Package.bare "i").declareType (.plain "i" "SharedInformerFactory"),
      (Package.bare "j").declareFunction "RegisterInformer",
      (Package.bare "k").declareType (.plain "k" "Informer")]
    let config : GeneratorConfig :=
      ⟨"out/gadget",⟨"example.com","v1",none⟩,⟨"c","t/v1","f","i","j","k"⟩,.standard⟩
    let paths := Informer.aliasedPaths known config.packages [config.outputPackage]
    let fresh := (create known config gadget.name).withAliases
      (.build paths Informer.templateLocals)
    let calls : List GeneratorCall := [.generate (.plain "api" "Gear"),.write gadget (.bounded 9),
      .generate gadget,.write misread .unbounded,.write gadget (.chunked 8)]
    fresh.obstacle? misread = some (.malformedTag ⟨"+genclient=yes",.valueOnClient⟩) ∧
      fresh.obstacle? gadget = none ∧
      AliasTable.Ends paths Informer.templateLocals ∧ Steady fresh (fresh.after calls) := by
  intro gadget misread known config paths fresh calls
  have misreads : fresh.obstacle? misread =
      some (.malformedTag ⟨"+genclient=yes",.valueOnClient⟩) := by decide +kernel
  have clear : fresh.obstacle? gadget = none := by decide +kernel
  have ends : AliasTable.Ends paths Informer.templateLocals :=
    AliasTable.ends_of_spellable (by decide +kernel) _
  exact ⟨misreads,clear,ends,steady_after_calls ends known config gadget.name calls⟩

end InformerGenerator

end InformerGen
