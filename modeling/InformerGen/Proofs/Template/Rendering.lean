import InformerGen.Proofs.Recording
import InformerGen.Proofs.Resolver.Calls
import InformerGen.Proofs.Template.Pieces

/-! Rendering a template with any bindings. That all placeholders are bound is settled beforehand. After
that each value can be written at its placeholder or not, whatever has been recorded; those that are
types to be written as qualified references bring their imports, and nothing else does. -/
namespace InformerGen

/-- The placeholder asks for a qualified reference: it has no naming system, or the one of these. -/
def Placeholder.IsRaw (placeholder : Placeholder) : Prop :=
  placeholder.system = none ∨ placeholder.system = some NameSystems.rawId

instance (placeholder : Placeholder) : Decidable placeholder.IsRaw :=
  inferInstanceAs (Decidable (_ ∨ _))

theorem Placeholder.exists_system_of_not_isRaw {placeholder : Placeholder}
    (other : ¬placeholder.IsRaw) :
    ∃ system, placeholder.system = some system ∧ system ≠ NameSystems.rawId := by
  obtain ⟨absent,unnamed⟩ := not_or.mp other
  obtain ⟨system,chosen⟩ := Option.ne_none_iff_exists'.mp absent
  exact ⟨system,chosen,by simpa [chosen] using unnamed⟩

namespace Resolver

variable {α β : Type} {resolver : Resolver} {type : TypeDescriptor}

/-- The type is declared, and its package is the home package or has an alias. -/
def Resolves (resolver : Resolver) (type : TypeDescriptor) : Prop :=
  resolver.Declared ⟨type.name,.type⟩ ∧ (type.name.package = resolver.home ∨
    (resolver.aliases.alias? type.name.package).isSome)

theorem fault?_eq_none_iff : resolver.fault? ⟨type.name,.type⟩ = none ↔ resolver.Resolves type := by
  rw [fault?,Option.or_eq_none_iff,missing?_eq_none_iff,unaliased?_eq_none_iff]
  rfl

/-- Whatever entries of its table a resolver has recorded, the computation comes to the value, and the
imports of the references are recorded. -/
def Yields (resolver : Resolver) (computation : Recording α) (value : α)
    (references : List SymbolRef) : Prop :=
  ∀ trail : Trail, trail.imports.Restricts resolver.aliases →
    ∃ after, computation trail = (.ok value,after) ∧ resolver.Gathers references trail after

theorem yields_of_unrecorded {computation : Recording α} {value : α}
    (done : ∀ trail, computation trail = (.ok value,trail)) :
    resolver.Yields computation value [] :=
  fun trail restricts => ⟨trail,done trail,gathers_nil restricts⟩

theorem Yields.bind {first : Recording α} {value : α} {next : α → Recording β} {result : β}
    {references others : List SymbolRef} (start : resolver.Yields first value references)
    (rest : resolver.Yields (next value) result others) :
    resolver.Yields (first >>= next) result (references ++ others) := by
  intro trail restricts
  obtain ⟨middle,ran,gathers⟩ := start trail restricts
  obtain ⟨after,done,more⟩ := rest middle gathers.restricts
  exact ⟨after,(Recording.bind_of_ok ran).trans done,gathers.trans more⟩

theorem yields_resolveType (distinct : ImportTracker.OneToOne resolver.aliases.pairs)
    (resolves : resolver.Resolves type) :
    resolver.Yields (resolver.resolveType type) (resolver.symbol ⟨type.name,.type⟩).text
      [⟨type.name,.type⟩] := by
  intro trail restricts
  obtain ⟨after,resolved,gathers⟩ :=
    resolve_of_free distinct (fault?_eq_none_iff.mpr resolves) restricts
  exact ⟨after,Recording.bind_of_ok resolved,gathers⟩

end Resolver

namespace Template

variable {context : TemplateContext} {systems : NameSystems} {resolver : Resolver}
  {placeholder : Placeholder} {value : TemplateValue} {segments : List Segment} {template : Template}
  {trail : Trail}

/-- The value can be written at the placeholder: it needs no import for that, or it is a type to be
written as a reference, and the reference can be resolved. No naming system takes the place of the
references, whatever systems there are. -/
def Writable (resolver : Resolver) (systems : NameSystems) (placeholder : Placeholder)
    (value : TemplateValue) : Prop :=
  Suits systems placeholder.system value ∨
    ∃ type, value = .type type ∧ placeholder.IsRaw ∧ resolver.Resolves type

/-- The reference for a type that is written raw. -/
def references (placeholder : Placeholder) : TemplateValue → List SymbolRef
  | .type type => if placeholder.IsRaw then [⟨type.name,.type⟩] else []
  | _ => []

def segmentReferences (context : TemplateContext) : Segment → List SymbolRef
  | .text _ => []
  | .placeholder placeholder => (context.get? placeholder.name).elim [] (references placeholder)

theorem references_of_suits (suits : Suits systems placeholder.system value) :
    references placeholder value = [] := by
  cases value with
  | type type =>
    obtain ⟨name,chosen,named,_⟩ := suits
    simp [references,Placeholder.IsRaw,chosen,named]
  | _ => rfl

theorem mem_segmentReferences {reference : SymbolRef} :
    reference ∈ segments.flatMap (segmentReferences context) ↔
      ∃ placeholder, .placeholder placeholder ∈ segments ∧ ∃ type,
        context.get? placeholder.name = some (.type type) ∧ placeholder.IsRaw ∧
          reference = ⟨type.name,.type⟩ := by
  rw [List.mem_flatMap]
  constructor
  · intro listed
    obtain ⟨segment,member,brings⟩ := listed
    cases segment with
    | text text => cases brings
    | placeholder placeholder =>
      cases bound : context.get? placeholder.name with
      | none => simp [segmentReferences,bound] at brings
      | some value =>
        rw [segmentReferences,bound,Option.elim_some] at brings
        cases value with
        | type type =>
          rw [references] at brings
          split at brings
          next raw =>
            obtain rfl := List.mem_singleton.mp brings
            exact ⟨placeholder,member,type,bound,raw,rfl⟩
          next => cases brings
        | _ => cases brings
  · intro raw
    obtain ⟨placeholder,member,type,bound,isRaw,rfl⟩ := raw
    refine ⟨_,member,?_⟩
    simp [segmentReferences,references,bound,isRaw]

theorem renderValue_of_raw (raw : placeholder.IsRaw) (type : TypeDescriptor) :
    renderValue systems resolver placeholder (.type type) = resolver.resolveType type := by
  rcases raw with plain | named
  · simp [renderValue,plain]
  · simp [renderValue,named]

theorem yields_renderValue (distinct : ImportTracker.OneToOne resolver.aliases.pairs)
    (writable : Writable resolver systems placeholder value) :
    ∃ text, resolver.Yields (renderValue systems resolver placeholder value) text
      (references placeholder value) := by
  rcases writable with suits | ⟨type,rfl,raw,resolves⟩
  · rw [references_of_suits suits]
    exact ⟨_,Resolver.yields_of_unrecorded (renderValue_of_suits suits)⟩
  · rw [renderValue_of_raw raw,references,if_pos raw]
    exact ⟨_,Resolver.yields_resolveType distinct resolves⟩

theorem renderValue_of_unwritable (unwritable : ¬Writable resolver systems placeholder value) :
    ∃ error, ∀ trail,
      renderValue systems resolver placeholder value trail = (.error error,trail) := by
  obtain ⟨unsuited,unresolved⟩ := not_or.mp unwritable
  cases value with
  | literal text =>
    obtain ⟨system,chosen⟩ := Option.ne_none_iff_exists'.mp unsuited
    refine ⟨.invalidPlaceholder placeholder.source (.onLiteral system),fun trail => ?_⟩
    rw [renderValue,rejectSystem,chosen]
    rfl
  | bool flag =>
    obtain ⟨system,chosen⟩ := Option.ne_none_iff_exists'.mp unsuited
    refine ⟨.invalidPlaceholder placeholder.source (.onBoolean system),fun trail => ?_⟩
    rw [renderValue,rejectSystem,chosen]
    rfl
  | symbol symbol =>
    obtain ⟨system,chosen,apart⟩ := Placeholder.exists_system_of_not_isRaw unsuited
    refine ⟨.invalidPlaceholder placeholder.source (.onSymbol system),fun trail => ?_⟩
    simp only [renderValue,chosen,if_neg apart]
    rfl
  | type type =>
    by_cases raw : placeholder.IsRaw
    · have faulty : resolver.fault? ⟨type.name,.type⟩ ≠ none := by
        intro free
        exact unresolved ⟨type,rfl,raw,Resolver.fault?_eq_none_iff.mp free⟩
      obtain ⟨fault,found⟩ := Option.ne_none_iff_exists'.mp faulty
      refine ⟨fault,fun trail => ?_⟩
      rw [renderValue_of_raw raw]
      exact Recording.bind_of_error (Resolver.resolve_of_fault found trail)
    · obtain ⟨system,chosen,apart⟩ := Placeholder.exists_system_of_not_isRaw raw
      have unknown : systems.get? system = none := by
        by_contra known
        exact unsuited ⟨system,chosen,apart,Option.isSome_iff_ne_none.mpr known⟩
      have unnamed : systems.name? system type = none := by rw [NameSystems.name?,unknown]; rfl
      refine ⟨.unknownNameSystem placeholder.source system,fun trail => ?_⟩
      simp only [renderValue,chosen,if_neg apart,unnamed]
      rfl

theorem keeps_renderValue (distinct : ImportTracker.OneToOne resolver.aliases.pairs)
    (placeholder : Placeholder) (value : TemplateValue) :
    Recording.Keeps (·.Restricts resolver.aliases)
      (renderValue systems resolver placeholder value) := by
  intro trail restricts
  by_cases writable : Writable resolver systems placeholder value
  · obtain ⟨text,yields⟩ := yields_renderValue distinct writable
    obtain ⟨after,written,gathers⟩ := yields trail restricts
    rw [written]
    exact gathers.restricts
  · obtain ⟨error,failed⟩ := renderValue_of_unwritable writable
    rwa [failed]

/-- The placeholder is bound to a value that can be written at it. -/
def Ready (context : TemplateContext) (systems : NameSystems) (resolver : Resolver)
    (placeholder : Placeholder) : Prop :=
  ∃ value, context.get? placeholder.name = some value ∧
    Writable resolver systems placeholder value

theorem yields_renderSegments (distinct : ImportTracker.OneToOne resolver.aliases.pairs)
    (ready : ∀ placeholder, .placeholder placeholder ∈ segments →
      Ready context systems resolver placeholder) :
    ∃ text, resolver.Yields (renderSegments context systems resolver segments) text
      (segments.flatMap (segmentReferences context)) := by
  induction segments with
  | nil => exact ⟨"",Resolver.yields_of_unrecorded fun _ => rfl⟩
  | cons segment rest ih =>
    obtain ⟨more,others⟩ := ih fun placeholder member => ready placeholder (List.mem_cons_of_mem _ member)
    have first : ∃ text, resolver.Yields (renderSegment context systems resolver segment) text
        (segmentReferences context segment) := by
      cases segment with
      | text text => exact ⟨text,Resolver.yields_of_unrecorded fun _ => rfl⟩
      | placeholder placeholder =>
        obtain ⟨value,bound,writable⟩ := ready placeholder List.mem_cons_self
        rw [renderSegment,segmentReferences,bound]
        exact yields_renderValue distinct writable
    obtain ⟨text,start⟩ := first
    have last : resolver.Yields (pure (text ++ more)) (text ++ more) [] :=
      Resolver.yields_of_unrecorded fun _ => rfl
    have behind : resolver.Yields (renderSegments context systems resolver rest >>= fun more =>
        pure (text ++ more)) (text ++ more) (rest.flatMap (segmentReferences context) ++ []) :=
      others.bind last
    rw [List.append_nil] at behind
    rw [renderSegments,List.flatMap_cons]
    exact ⟨text ++ more,start.bind behind⟩

theorem ready_of_renderSegments {text : String} {after : Trail}
    (done : renderSegments context systems resolver segments trail = (.ok text,after)) :
    ∀ placeholder, .placeholder placeholder ∈ segments →
      Ready context systems resolver placeholder := by
  induction segments generalizing trail text after with
  | nil => simp
  | cons segment rest ih =>
    intro placeholder member
    obtain ⟨written,middle,first,next⟩ := Recording.bind_eq_ok_iff.mp done
    obtain ⟨more,_,others,_⟩ := Recording.bind_eq_ok_iff.mp next
    rcases List.mem_cons.mp member with rfl | later
    · cases bound : context.get? placeholder.name with
      | none =>
        rw [renderSegment,bound] at first
        cases first
      | some value =>
        refine ⟨value,bound,?_⟩
        by_contra unwritable
        obtain ⟨error,failed⟩ := renderValue_of_unwritable unwritable
        rw [renderSegment,bound] at first
        cases (failed trail).symm.trans first
    · exact ih others placeholder later

theorem keeps_renderSegments (distinct : ImportTracker.OneToOne resolver.aliases.pairs)
    (segments : List Segment) :
    Recording.Keeps (·.Restricts resolver.aliases)
      (renderSegments context systems resolver segments) := by
  induction segments with
  | nil => exact Recording.keeps_pure ""
  | cons segment rest ih =>
    have first : Recording.Keeps (·.Restricts resolver.aliases)
        (renderSegment context systems resolver segment) := by
      cases segment with
      | text text => exact Recording.keeps_pure text
      | placeholder placeholder =>
        rw [renderSegment]
        cases context.get? placeholder.name with
        | none => exact Recording.keeps_lift _
        | some value => exact keeps_renderValue distinct placeholder value
    exact first.bind fun text => ih.bind fun more => Recording.keeps_pure _

def Bound (template : Template) (context : TemplateContext) : Prop :=
  ∀ placeholder ∈ template.placeholders, context.get? placeholder.name ≠ none

theorem render_of_bound (bound : template.Bound context) :
    template.render context systems resolver =
      renderSegments context systems resolver template.segments := by
  have none : template.placeholders.find? (fun placeholder =>
      !context.contains placeholder.name) = none := by
    rw [List.find?_eq_none]
    intro placeholder member
    simpa [Bindings.contains,Option.isSome_iff_ne_none] using bound placeholder member
  rw [render,none]

theorem render_of_unbound (unbound : ¬template.Bound context) :
    ∃ front missing back, template.placeholders = front ++ missing::back ∧
      (∀ placeholder ∈ front, context.get? placeholder.name ≠ none) ∧
      context.get? missing.name = none ∧ ∀ trail, template.render context systems resolver trail =
        (.error (.missingPlaceholder missing.name),trail) := by
  cases found : template.placeholders.find? fun placeholder =>
      !context.contains placeholder.name with
  | none =>
    refine absurd (fun placeholder member => ?_) unbound
    simpa [Bindings.contains,Option.isSome_iff_ne_none] using
      List.find?_eq_none.mp found placeholder member
  | some missing =>
    obtain ⟨absent,front,back,parts,before⟩ := List.find?_eq_some_iff_append.mp found
    refine ⟨front,missing,back,parts,fun placeholder member => ?_,?_,fun trail => ?_⟩
    · simpa [Bindings.contains,Option.isSome_iff_ne_none] using before placeholder member
    · simpa [Bindings.contains] using absent
    · rw [render,found]
      rfl

theorem bound_of_ready (ready : ∀ placeholder ∈ template.placeholders,
    Ready context systems resolver placeholder) : template.Bound context := by
  intro placeholder member
  obtain ⟨value,bound,_⟩ := ready placeholder member
  simp [bound]

theorem yields_render (distinct : ImportTracker.OneToOne resolver.aliases.pairs)
    (ready : ∀ placeholder ∈ template.placeholders, Ready context systems resolver placeholder) :
    ∃ text, resolver.Yields (template.render context systems resolver) text
      (template.segments.flatMap (segmentReferences context)) := by
  rw [render_of_bound (bound_of_ready ready)]
  apply yields_renderSegments distinct
  intro placeholder member
  exact ready placeholder (mem_placeholders.mpr member)

theorem ready_of_render {text : String} {after : Trail}
    (done : template.render context systems resolver trail = (.ok text,after)) :
    ∀ placeholder ∈ template.placeholders, Ready context systems resolver placeholder := by
  by_cases bound : template.Bound context
  · rw [render_of_bound bound] at done
    intro placeholder member
    exact ready_of_renderSegments done placeholder (mem_placeholders.mp member)
  · obtain ⟨_,_,_,_,_,_,failed⟩ := render_of_unbound bound
    cases (failed trail).symm.trans done

theorem written_iff_of_bound (distinct : ImportTracker.OneToOne resolver.aliases.pairs)
    (restricts : trail.imports.Restricts resolver.aliases) (bound : template.Bound context) :
    (∃ text, (template.render context systems resolver trail).1 = .ok text) ↔
      ∀ placeholder ∈ template.placeholders, ∀ value, context.get? placeholder.name = some value →
        Writable resolver systems placeholder value := by
  constructor
  · intro written placeholder member value found
    obtain ⟨text,done⟩ := written
    obtain ⟨other,also,writable⟩ := ready_of_render (Prod.ext done rfl) placeholder member
    rw [found] at also
    cases also
    exact writable
  · intro writable
    have ready : ∀ placeholder ∈ template.placeholders,
        Ready context systems resolver placeholder := by
      intro placeholder member
      obtain ⟨value,found⟩ := Option.ne_none_iff_exists'.mp (bound placeholder member)
      exact ⟨value,found,writable placeholder member value found⟩
    obtain ⟨text,yields⟩ := yields_render distinct ready
    obtain ⟨after,written,_⟩ := yields trail restricts
    exact ⟨text,congrArg Prod.fst written⟩

theorem yields_of_render (distinct : ImportTracker.OneToOne resolver.aliases.pairs)
    (restricts : trail.imports.Restricts resolver.aliases) {text : String} {after : Trail}
    (done : template.render context systems resolver trail = (.ok text,after)) :
    resolver.Yields (template.render context systems resolver) text
        (template.segments.flatMap (segmentReferences context)) ∧
      resolver.Gathers (template.segments.flatMap (segmentReferences context)) trail after := by
  obtain ⟨_,yields⟩ := yields_render distinct (ready_of_render done)
  obtain ⟨_,written,gathers⟩ := yields trail restricts
  cases done.symm.trans written
  exact ⟨yields,gathers⟩

theorem keeps_render (distinct : ImportTracker.OneToOne resolver.aliases.pairs)
    (template : Template) : Recording.Keeps (·.Restricts resolver.aliases)
      (template.render context systems resolver) := by
  by_cases bound : template.Bound context
  · rw [render_of_bound bound]
    exact keeps_renderSegments distinct _
  · obtain ⟨_,_,_,_,_,_,failed⟩ := render_of_unbound bound
    intro trail restricts
    rwa [failed]

end Template

namespace Resolver

/-- What has been recorded with a resolver at some time: by calls on it and by renderings, whether they
have failed or not. -/
inductive Reaches (resolver : Resolver) : Trail → Prop
  | fresh : Reaches resolver .empty
  | report {trail : Trail} (reached : Reaches resolver trail) (event : Event) :
      Reaches resolver (Recording.report event trail).2
  | call {trail : Trail} (reached : Reaches resolver trail) (call : ResolverCall) :
      Reaches resolver (resolver.perform call trail).2
  | render {trail : Trail} (reached : Reaches resolver trail) (template : Template)
      (context : TemplateContext) (systems : NameSystems) :
      Reaches resolver (template.render context systems resolver trail).2

theorem Reaches.restricts {resolver : Resolver} {trail : Trail}
    (distinct : ImportTracker.OneToOne resolver.aliases.pairs) (reached : resolver.Reaches trail) :
    trail.imports.Restricts resolver.aliases := by
  induction reached with
  | fresh => exact ImportTracker.restricts_empty _
  | report _ event ih => exact ih
  | call _ call ih => exact (perform_gathers distinct ih call).2.restricts
  | render _ template context systems ih => exact Template.keeps_render distinct template _ ih

end Resolver

namespace Template

/-- What comes of rendering a template with the bindings, from a state of the resolver. -/
structure Renders (template : Template) (context : TemplateContext) (systems : NameSystems)
    (resolver : Resolver) (trail : Trail) : Prop where
  /-- If a placeholder is not bound, the first one that is not is told, and nothing is recorded. -/
  unbound : (∃ placeholder ∈ template.placeholders, context.get? placeholder.name = none) →
    ∃ missing ∈ template.placeholders, context.get? missing.name = none ∧
      (∀ other ∈ template.placeholders, context.get? other.name = none →
        missing.offset ≤ other.offset) ∧
      template.render context systems resolver trail =
        (.error (.missingPlaceholder missing.name),trail)
  written_iff : template.Bound context →
    ((∃ text, (template.render context systems resolver trail).1 = .ok text) ↔
      ∀ placeholder ∈ template.placeholders, ∀ value,
        context.get? placeholder.name = some value →
          Writable resolver systems placeholder value)
  consistent : (template.render context systems resolver trail).2.imports.Consistent
  /-- The imports have grown by those of the types that are written raw. -/
  mem_pairs_iff : ∀ text after,
    template.render context systems resolver trail = (.ok text,after) → ∀ entry,
      entry ∈ after.imports.pairs ↔ entry ∈ trail.imports.pairs ∨
        (entry.1 ≠ resolver.home ∧ resolver.aliases.alias? entry.1 = some entry.2 ∧
          ∃ placeholder ∈ template.placeholders, ∃ type,
            context.get? placeholder.name = some (.type type) ∧ placeholder.IsRaw ∧
              type.name.package = entry.1)
  again : ∀ text after, template.render context systems resolver trail = (.ok text,after) →
    (template.render context systems resolver after).1 = .ok text ∧
      (template.render context systems resolver after).2.imports = after.imports

variable {context : TemplateContext} {systems : NameSystems} {resolver : Resolver}
  {template : Template} {trail : Trail}

theorem first_of_ascending {front back : List Placeholder} {missing : Placeholder}
    (ascending : (template.placeholders.map (·.offset)).Pairwise (· < ·))
    (parts : template.placeholders = front ++ missing::back)
    (bound : ∀ placeholder ∈ front, context.get? placeholder.name ≠ none) :
    ∀ other ∈ template.placeholders, context.get? other.name = none →
      missing.offset ≤ other.offset := by
  intro other member unbound
  rw [parts,List.map_append,List.map_cons,List.pairwise_append,List.pairwise_cons] at ascending
  rw [parts,List.mem_append,List.mem_cons] at member
  rcases member with before | rfl | behind
  · exact absurd unbound (bound other before)
  · exact Nat.le_refl _
  · exact Nat.le_of_lt (ascending.2.1.1 _ (List.mem_map.mpr ⟨other,behind,rfl⟩))

theorem mem_needs_references {entry : String × String} :
    entry ∈ resolver.needs (template.segments.flatMap (segmentReferences context)) ↔
      entry.1 ≠ resolver.home ∧ resolver.aliases.alias? entry.1 = some entry.2 ∧
        ∃ placeholder ∈ template.placeholders, ∃ type,
          context.get? placeholder.name = some (.type type) ∧ placeholder.IsRaw ∧
            type.name.package = entry.1 := by
  simp only [Resolver.needs,Set.mem_ofPred_eq,mem_segmentReferences,mem_placeholders,
    Resolver.qualifier?_eq_some_iff]
  constructor
  · intro needed
    obtain ⟨_,⟨placeholder,member,type,bound,raw,rfl⟩,package,abroad,known⟩ := needed
    exact ⟨abroad,known,placeholder,member,type,bound,raw,package⟩
  · intro written
    obtain ⟨abroad,known,placeholder,member,type,bound,raw,package⟩ := written
    exact ⟨_,⟨placeholder,member,type,bound,raw,rfl⟩,package,abroad,known⟩

/-- Rendering asks first whether all placeholders are bound. Then it succeeds just if each value can be
written where it stands, and it brings the imports of the types that are written raw, once and for
all. -/
theorem rendered_by_bindings {paths reserved : List String}
    (ends : AliasTable.Ends paths reserved) (known : Universe) (home : String) {source : String}
    {template : Template} (parsed : parse source = .ok template) (context : TemplateContext)
    (systems : NameSystems) {trail : Trail}
    (reached : (Resolver.mk known home (.build paths reserved)).Reaches trail) :
    template.Renders context systems (.mk known home (.build paths reserved)) trail := by
  generalize built : Resolver.mk known home (.build paths reserved) = resolver at reached
  have distinct : ImportTracker.OneToOne resolver.aliases.pairs := built ▸ ends.oneToOne
  have restricts := reached.restricts distinct
  constructor
  case unbound =>
    intro lacking
    obtain ⟨absent,member,lacks⟩ := lacking
    have unbound : ¬template.Bound context := fun bound => bound absent member lacks
    obtain ⟨front,missing,back,parts,bound,unknown,failed⟩ :=
      @render_of_unbound context systems resolver template unbound
    refine ⟨missing,?_,unknown,?_,failed trail⟩
    · simp [parts]
    · exact first_of_ascending (reading_of_parse parsed).ascending parts bound
  case written_iff => exact written_iff_of_bound distinct restricts
  case consistent => exact (keeps_render distinct template trail restricts).consistent
  case mem_pairs_iff =>
    intro text after done entry
    obtain ⟨_,gathers⟩ := yields_of_render distinct restricts done
    rw [gathers.pairs_eq,Set.mem_union,mem_needs_references]
  case again =>
    intro text after done
    obtain ⟨yields,gathers⟩ := yields_of_render distinct restricts done
    obtain ⟨last,rewritten,more⟩ := yields after gathers.restricts
    rw [rewritten]
    refine ⟨rfl,more.restricts.consistent.ext gathers.restricts.consistent ?_⟩
    rw [more.pairs_eq,gathers.pairs_eq,Set.union_assoc,Set.union_self]

/-- Types that are written raw and by a naming system, after a call that has failed; and a template in
which a fault stands before a placeholder that is not bound. -/
theorem gear_rendered_by_bindings :
    let gear := TypeDescriptor.plain "api/v1" "gear"
    let own := TypeDescriptor.plain "out" "Own"
    let resolver := Resolver.mk (.ofPackages [(Package.bare "api/v1").declareType gear,
      (Package.bare "out").declareType own]) "out" (.build ["api/v1","out"] ["v1"])
    let context : TemplateContext := .ofList [("t",.type gear),("o",.type own),("g",.literal "Apps")]
    let systems := NameSystems.ofTables .standard
    let trail := (resolver.perform (.resolve (.ofFunction "api/v1" "Get")) .empty).2
    let whole : Template := ⟨[.placeholder ⟨"t",some "publicPlural",0⟩,.text " ",
      .placeholder ⟨"t",some "raw",20⟩,.placeholder ⟨"o",none,30⟩]⟩
    let faulty : Template := ⟨[.placeholder ⟨"g",some "raw",0⟩,.placeholder ⟨"x",none,10⟩]⟩
    parse "\x7b\x7b.t|publicPlural\x7d\x7d \x7b\x7b.t|raw\x7d\x7d\x7b\x7b.o\x7d\x7d" = .ok whole ∧
    parse "\x7b\x7b.g|raw\x7d\x7d\x7b\x7b.x\x7d\x7d" = .ok faulty ∧
    AliasTable.Ends ["api/v1","out"] ["v1"] ∧ resolver.Reaches trail ∧
    whole.Renders context systems resolver trail ∧ faulty.Renders context systems resolver trail ∧
    ∃ after, whole.render context systems resolver trail = (.ok "Gears apiv1.gearOwn",after) ∧
      ("api/v1","apiv1") ∈ after.imports.pairs ∧
      (whole.render context systems resolver after).2.imports = after.imports := by
  intro gear own resolver context systems trail whole faulty
  have parsed : parse "\x7b\x7b.t|publicPlural\x7d\x7d \x7b\x7b.t|raw\x7d\x7d\x7b\x7b.o\x7d\x7d" =
      .ok whole := by
    rw [parse,segmentsFrom_eq_within (Nat.le_refl _)]
    rfl
  have alsoParsed : parse "\x7b\x7b.g|raw\x7d\x7d\x7b\x7b.x\x7d\x7d" = .ok faulty := by
    rw [parse,segmentsFrom_eq_within (Nat.le_refl _)]
    rfl
  have ends : AliasTable.Ends ["api/v1","out"] ["v1"] :=
    AliasTable.ends_of_spellable (by decide +kernel) _
  have reached : resolver.Reaches trail := .call .fresh _
  have renders := rendered_by_bindings ends _ "out" parsed context systems reached
  have rejects := rendered_by_bindings ends _ "out" alsoParsed context systems reached
  have written : (whole.render context systems resolver trail).1 = .ok "Gears apiv1.gearOwn" := by
    decide +kernel
  obtain ⟨after,done⟩ : ∃ after,
      whole.render context systems resolver trail = (.ok "Gears apiv1.gearOwn",after) :=
    ⟨_,Prod.ext written rfl⟩
  have aliased : resolver.aliases.alias? "api/v1" = some "apiv1" := by decide +kernel
  have bound : context.get? "t" = some (.type gear) := by decide +kernel
  have imported : ("api/v1","apiv1") ∈ after.imports.pairs := by
    rw [renders.mem_pairs_iff _ _ done]
    refine .inr ⟨by decide,aliased,⟨"t",some "raw",20⟩,?_,gear,bound,.inr rfl,rfl⟩
    decide
  exact ⟨parsed,alsoParsed,ends,reached,renders,rejects,after,done,imported,
    (renders.again _ _ done).2⟩

end Template

end InformerGen
