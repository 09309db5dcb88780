import InformerGen.Proofs.Resolver

/-! Calls on one resolver, one after the other. What a call comes to depends on the declarations and on
the table of aliases, and on no call before it. What has been recorded after some calls are the
packages that these have named, each with its alias from the table, in whatever order and however
often the calls were made. -/
namespace InformerGen

/-- A call that asks whether a reference is declared, or one that asks how to write it. -/
inductive ResolverCall where
  | require (reference : SymbolRef)
  | resolve (reference : SymbolRef)
  | resolveType (type : TypeDescriptor)

inductive ResolverAnswer where
  | declared
  | symbol (symbol : Symbol)
  | text (text : String)

def ResolverAnswer.written? : ResolverAnswer → Option String
  | declared => none
  | symbol resolved => some resolved.text
  | text written => some written

namespace ResolverCall

def reference : ResolverCall → SymbolRef
  | require reference => reference
  | resolve reference => reference
  | resolveType type => ⟨type.name,.type⟩

def names : ResolverCall → Bool
  | require _ => false
  | resolve _ => true
  | resolveType _ => true

def answer : ResolverCall → Option String → ResolverAnswer
  | require _,_ => .declared
  | resolve reference,qualifier => .symbol ⟨reference,qualifier⟩
  | resolveType type,qualifier => .text (Symbol.text ⟨⟨type.name,.type⟩,qualifier⟩)

theorem written?_answer {call : ResolverCall} (naming : call.names = true)
    (qualifier : Option String) :
    (call.answer qualifier).written? = some (Symbol.text ⟨call.reference,qualifier⟩) := by
  cases call with
  | require reference => cases naming
  | resolve reference => rfl
  | resolveType type => rfl

end ResolverCall

namespace Resolver

def perform (resolver : Resolver) : ResolverCall → Recording ResolverAnswer
  | .require reference => do
    Recording.lift (resolver.require reference)
    return .declared
  | .resolve reference => do
    let symbol ← resolver.resolve reference
    return .symbol symbol
  | .resolveType type => do
    let text ← resolver.resolveType type
    return .text text

/-- What has been recorded after some calls. A call that fails does not end them. -/
def after (resolver : Resolver) (trail : Trail) (calls : List ResolverCall) : Trail :=
  calls.foldl (fun current call => (resolver.perform call current).2) trail

def Declared (resolver : Resolver) (reference : SymbolRef) : Prop :=
  (∃ package, resolver.known.package? reference.package = some package ∧
    package.declares reference.name.name reference.kind = true) ∨ reference ∈ prelude

def obstacle? (resolver : Resolver) (call : ResolverCall) : Option GenerationError :=
  if call.names then resolver.fault? call.reference else resolver.missing? call.reference

/-- The references that a call brings the imports of. -/
def brought (resolver : Resolver) (call : ResolverCall) : List SymbolRef :=
  if call.names = true ∧ resolver.obstacle? call = none then [call.reference] else []

def reply (resolver : Resolver) (call : ResolverCall) : Except GenerationError ResolverAnswer :=
  match resolver.obstacle? call with
  | some fault => .error fault
  | none => .ok (call.answer (resolver.qualifier? call.reference.package))

variable {resolver : Resolver} {call : ResolverCall} {trail : Trail}

theorem missing?_eq_none_iff {reference : SymbolRef} :
    resolver.missing? reference = none ↔ resolver.Declared reference := by
  simp [missing?,isDeclared,Declared,Universe.declares,Option.any_eq_true,or_iff_not_imp_left]

theorem missing?_eq_some_iff {reference : SymbolRef} {error : GenerationError} :
    resolver.missing? reference = some error ↔
      ¬resolver.Declared reference ∧ error = .unknownSymbol reference := by
  rw [← missing?_eq_none_iff]
  unfold missing?
  split <;> simp [eq_comm]

theorem unaliased?_eq_some_iff {reference : SymbolRef} {error : GenerationError} :
    resolver.unaliased? reference = some error ↔
      reference.package ≠ resolver.home ∧ resolver.aliases.alias? reference.package = none ∧
        error = .unknownPackage reference.package := by
  unfold unaliased?
  split
  next known =>
    refine iff_of_false (by simp) ?_
    rintro ⟨abroad,unaliased,_⟩
    simp [abroad,unaliased] at known
  next unknown =>
    rw [not_or,Option.not_isSome_iff_eq_none] at unknown
    simp [unknown,eq_comm]

theorem obstacle?_eq_some_iff {error : GenerationError} :
    resolver.obstacle? call = some error ↔
      (¬resolver.Declared call.reference ∧ error = .unknownSymbol call.reference) ∨
      (call.names = true ∧ resolver.Declared call.reference ∧
        call.reference.package ≠ resolver.home ∧
        resolver.aliases.alias? call.reference.package = none ∧
        error = .unknownPackage call.reference.package) := by
  unfold obstacle?
  split
  next naming =>
    rw [fault?,Option.or_eq_some_iff,missing?_eq_some_iff,missing?_eq_none_iff,
      unaliased?_eq_some_iff]
    simp [naming]
  next asking =>
    rw [missing?_eq_some_iff]
    simp [asking]

theorem perform_of_obstacle {fault : GenerationError}
    (found : resolver.obstacle? call = some fault) (trail : Trail) :
    resolver.perform call trail = (.error fault,trail) := by
  cases call with
  | require reference =>
    change resolver.missing? reference = some fault at found
    apply Recording.bind_of_error
    rw [Recording.lift_apply,require_eq,found]
  | resolve reference => exact Recording.bind_of_error (resolve_of_fault found trail)
  | resolveType type =>
    exact Recording.bind_of_error (Recording.bind_of_error (resolve_of_fault found trail))

theorem perform_of_clear (distinct : ImportTracker.OneToOne resolver.aliases.pairs)
    (clear : resolver.obstacle? call = none)
    (restricts : trail.imports.Restricts resolver.aliases) :
    ∃ after, resolver.perform call trail =
        (.ok (call.answer (resolver.qualifier? call.reference.package)),after) ∧
      resolver.Gathers (resolver.brought call) trail after := by
  have brings : resolver.brought call = if call.names then [call.reference] else [] := by
    simp [brought,clear]
  rw [brings]
  cases call with
  | require reference =>
    change resolver.missing? reference = none at clear
    have accepted : Recording.lift (resolver.require reference) trail = (.ok (),trail) := by
      rw [Recording.lift_apply,require_eq_ok clear]
    exact ⟨trail,Recording.bind_of_ok accepted,gathers_nil restricts⟩
  | resolve reference =>
    obtain ⟨after,resolved,gathers⟩ := resolve_of_free distinct clear restricts
    exact ⟨after,Recording.bind_of_ok resolved,gathers⟩
  | resolveType type =>
    obtain ⟨after,resolved,gathers⟩ := resolve_of_free distinct clear restricts
    exact ⟨after,Recording.bind_of_ok (Recording.bind_of_ok resolved),gathers⟩

/-- A call on a resolver that has recorded nothing but entries of its table: the answer is always the
same, and what has been recorded grows by the import of a reference that was named. -/
theorem perform_gathers (distinct : ImportTracker.OneToOne resolver.aliases.pairs)
    (restricts : trail.imports.Restricts resolver.aliases) (call : ResolverCall) :
    (resolver.perform call trail).1 = resolver.reply call ∧
      resolver.Gathers (resolver.brought call) trail (resolver.perform call trail).2 := by
  cases found : resolver.obstacle? call with
  | some fault =>
    have nothing : resolver.brought call = [] := by simp [brought,found]
    rw [perform_of_obstacle found,reply,found,nothing]
    exact ⟨rfl,gathers_nil restricts⟩
  | none =>
    obtain ⟨after,performed,gathers⟩ := perform_of_clear distinct found restricts
    rw [performed,reply,found]
    exact ⟨rfl,gathers⟩

theorem after_gathers (distinct : ImportTracker.OneToOne resolver.aliases.pairs)
    (restricts : trail.imports.Restricts resolver.aliases) (calls : List ResolverCall) :
    resolver.Gathers (calls.flatMap resolver.brought) trail (resolver.after trail calls) := by
  induction calls generalizing trail with
  | nil => exact gathers_nil restricts
  | cons call rest ih =>
    have first := (perform_gathers distinct restricts call).2
    exact first.trans (ih first.restricts)

theorem mem_needs_brought {calls : List ResolverCall} {entry : String × String} :
    entry ∈ resolver.needs (calls.flatMap resolver.brought) ↔
      entry.1 ≠ resolver.home ∧ resolver.aliases.alias? entry.1 = some entry.2 ∧
        ∃ call ∈ calls, call.names = true ∧ call.reference.package = entry.1 ∧
          ∃ answer, resolver.reply call = .ok answer := by
  have answered (call : ResolverCall) :
      (∃ answer, resolver.reply call = .ok answer) ↔ resolver.obstacle? call = none := by
    unfold reply
    split <;> simp_all
  simp only [needs,Set.mem_ofPred_eq,List.mem_flatMap,answered,qualifier?_eq_some_iff]
  constructor
  · rintro ⟨reference,⟨call,member,brings⟩,package,abroad,known⟩
    unfold brought at brings
    split at brings
    next named =>
      obtain rfl := List.mem_singleton.mp brings
      exact ⟨abroad,known,call,member,named.1,package,named.2⟩
    next => cases brings
  · rintro ⟨abroad,known,call,member,naming,package,clear⟩
    refine ⟨call.reference,⟨call,member,?_⟩,package,abroad,known⟩
    simp [brought,naming,clear]

theorem Gathers.imports_eq_of_nil {after : Trail} (gathers : resolver.Gathers [] trail after)
    (consistent : trail.imports.Consistent) : after.imports = trail.imports := by
  apply gathers.restricts.consistent.ext consistent
  rw [gathers.pairs_eq]
  simp [needs]

theorem brought_of_quiet (quiet : call.names = false ∨
    ∃ error, resolver.reply call = .error error) : resolver.brought call = [] := by
  rcases quiet with asking | ⟨error,failed⟩
  · simp [brought,asking]
  · unfold reply at failed
    split at failed
    next fault found => simp [brought,found]
    next => cases failed

theorem written_of_reply (naming : call.names = true) {answer : ResolverAnswer}
    (answered : resolver.reply call = .ok answer) :
    (call.reference.package = resolver.home ∧ answer = call.answer none ∧
      answer.written? = some call.reference.name.name) ∨
    (call.reference.package ≠ resolver.home ∧ ∃ qualifier,
      resolver.aliases.alias? call.reference.package = some qualifier ∧
      answer = call.answer (some qualifier) ∧
      answer.written? = some (qualifier ++ "." ++ call.reference.name.name)) := by
  unfold reply at answered
  split at answered
  next => cases answered
  next clear =>
    obtain rfl := Except.ok.inj answered
    rw [ResolverCall.written?_answer naming]
    rw [obstacle?,if_pos naming,fault?,Option.or_eq_none_iff,unaliased?_eq_none_iff] at clear
    by_cases home : call.reference.package = resolver.home
    · rw [qualifier?,if_pos home]
      exact .inl ⟨home,rfl,rfl⟩
    · obtain ⟨qualifier,known⟩ := Option.isSome_iff_exists.mp (clear.2.resolve_left home)
      rw [qualifier?,if_neg home,known]
      exact .inr ⟨home,qualifier,rfl,rfl,rfl⟩

/-- Calls on a fresh resolver: what they come to, and what has been recorded after them. -/
structure FreeOfOrder (resolver : Resolver) : Prop where
  result_eq : ∀ calls call,
    (resolver.perform call (resolver.after .empty calls)).1 = (resolver.perform call .empty).1
  required_iff : ∀ calls reference,
    (resolver.perform (.require reference) (resolver.after .empty calls)).1 = .ok .declared ↔
      resolver.Declared reference
  /-- There are no other failures, and so no conflicts of imports. -/
  failed_iff : ∀ calls call error,
    (resolver.perform call (resolver.after .empty calls)).1 = .error error ↔
      (¬resolver.Declared call.reference ∧ error = .unknownSymbol call.reference) ∨
      (call.names = true ∧ resolver.Declared call.reference ∧
        call.reference.package ≠ resolver.home ∧
        resolver.aliases.alias? call.reference.package = none ∧
        error = .unknownPackage call.reference.package)
  named : ∀ calls call answer, call.names = true →
    (resolver.perform call (resolver.after .empty calls)).1 = .ok answer →
      (call.reference.package = resolver.home ∧ answer = call.answer none ∧
        answer.written? = some call.reference.name.name) ∨
      (call.reference.package ≠ resolver.home ∧ ∃ qualifier,
        resolver.aliases.alias? call.reference.package = some qualifier ∧
        answer = call.answer (some qualifier) ∧
        answer.written? = some (qualifier ++ "." ++ call.reference.name.name))
  consistent : ∀ calls, (resolver.after .empty calls).imports.Consistent
  mem_pairs_iff : ∀ calls entry, entry ∈ (resolver.after .empty calls).imports.pairs ↔
    entry.1 ≠ resolver.home ∧ resolver.aliases.alias? entry.1 = some entry.2 ∧
      ∃ call ∈ calls, call.names = true ∧ call.reference.package = entry.1 ∧
        ∃ answer, (resolver.perform call .empty).1 = .ok answer
  unchanged : ∀ calls call, call.names = false ∨
      (∃ error, (resolver.perform call (resolver.after .empty calls)).1 = .error error) →
    (resolver.perform call (resolver.after .empty calls)).2.imports =
      (resolver.after .empty calls).imports
  imports_congr : ∀ calls others, (∀ call, call ∈ others ↔ call ∈ calls) →
    (resolver.after .empty others).imports = (resolver.after .empty calls).imports

/-- Given a table of aliases that could be built, no call on a resolver has an influence on another,
and the imports are those of the packages that were named, whatever the order of the calls. -/
theorem calls_free_of_order {paths reserved : List String} (ends : AliasTable.Ends paths reserved)
    (known : Universe) (home : String) :
    (Resolver.mk known home (.build paths reserved)).FreeOfOrder := by
  generalize built : Resolver.mk known home (.build paths reserved) = resolver
  have distinct : ImportTracker.OneToOne resolver.aliases.pairs := built ▸ ends.oneToOne
  have fresh : Trail.empty.imports.Restricts resolver.aliases :=
    ImportTracker.restricts_empty _
  have gathers (calls : List ResolverCall) := after_gathers distinct fresh calls
  have replies (calls : List ResolverCall) (call : ResolverCall) :
      (resolver.perform call (resolver.after .empty calls)).1 = resolver.reply call :=
    (perform_gathers distinct (gathers calls).restricts call).1
  have first (call : ResolverCall) : (resolver.perform call .empty).1 = resolver.reply call :=
    (perform_gathers distinct fresh call).1
  have members (calls : List ResolverCall) (entry : String × String) :
      entry ∈ (resolver.after .empty calls).imports.pairs ↔
        entry.1 ≠ resolver.home ∧ resolver.aliases.alias? entry.1 = some entry.2 ∧
          ∃ call ∈ calls, call.names = true ∧ call.reference.package = entry.1 ∧
            ∃ answer, resolver.reply call = .ok answer := by
    have none : Trail.empty.imports.pairs = ∅ := ImportTracker.pairs_empty
    rw [(gathers calls).pairs_eq,none,Set.empty_union,mem_needs_brought]
  constructor
  case result_eq =>
    intro calls call
    rw [replies,first]
  case required_iff =>
    intro calls reference
    have asked : resolver.obstacle? (.require reference) = resolver.missing? reference := rfl
    rw [replies,reply,asked,← missing?_eq_none_iff]
    cases resolver.missing? reference <;> simp [ResolverCall.answer]
  case failed_iff =>
    intro calls call error
    rw [replies,← obstacle?_eq_some_iff,reply]
    cases resolver.obstacle? call <;> simp
  case named =>
    intro calls call answer naming answered
    rw [replies] at answered
    exact written_of_reply naming answered
  case consistent =>
    intro calls
    exact (gathers calls).restricts.consistent
  case mem_pairs_iff =>
    intro calls entry
    simp only [first]
    exact members calls entry
  case unchanged =>
    intro calls call quiet
    have nothing : resolver.brought call = [] := by
      rw [replies] at quiet
      exact brought_of_quiet quiet
    have step := (perform_gathers distinct (gathers calls).restricts call).2
    rw [nothing] at step
    exact step.imports_eq_of_nil (gathers calls).restricts.consistent
  case imports_congr =>
    intro calls others same
    apply (gathers others).restricts.consistent.ext (gathers calls).restricts.consistent
    ext entry
    rw [members,members]
    simp only [same]

/-- Calls that fail, that ask only, and that name what is foreign, at home or in the prelude. -/
theorem mixed_calls_free_of_order :
    let paths := ["k8s.io/api/core/v1","k8s.io/api/apps/v1","context"]
    let known := Universe.ofPackages [
      (Package.bare "k8s.io/api/core/v1").declareType (.plain "k8s.io/api/core/v1" "Pod"),
      (Package.bare "k8s.io/api/apps/v1").declareFunction "Scale",
      (Package.bare "example.com/unlisted").declareType (.plain "example.com/unlisted" "Gear")]
    let resolver := Resolver.mk known "k8s.io/api/apps/v1" (.build paths ["v1"])
    let calls : List ResolverCall := [.resolveType (.plain "k8s.io/api/core/v1" "Pod"),
      .require (.ofType "k8s.io/api/core/v1" "Scale"),
      .resolveType (.plain "example.com/unlisted" "Gear"),
      .resolve (.ofFunction "k8s.io/api/apps/v1" "Scale"),
      .resolve (.ofFunction "context" "WithValue")]
    AliasTable.Ends paths ["v1"] ∧ resolver.FreeOfOrder ∧
      (resolver.after .empty calls).imports.byPath.entries =
        [("context","context"),("k8s.io/api/core/v1","corev1")] := by
  intro paths known resolver calls
  have ends : AliasTable.Ends paths ["v1"] :=
    AliasTable.ends_of_spellable (by decide +kernel) _
  exact ⟨ends,calls_free_of_order ends known _,by decide +kernel⟩

end Resolver

end InformerGen
