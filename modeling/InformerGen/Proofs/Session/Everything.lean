import InformerGen.Proofs.Session
import Mathlib.Data.List.Nodup

/-! Generating for all types that want a client. Directives are read first, then packages are claimed
in order, and only then are the files generated; the first failure in the first of these phases that
has one is the failure of the whole. Without a failure there is one file for each of the types, each
in a package of its own, unless one of the generations does not come to an end. -/
namespace InformerGen

namespace Reported

variable {α β : Type} {first : Reported α} {next : α → Reported β}

theorem result_bind_of_ok {value : α} (done : first.result = .ok value) :
    (first >>= next).result = (next value).result := by
  change (bind first next).result = _
  rw [bind,done]
  rfl

theorem result_bind_of_error {error : SessionError} (failed : first.result = .error error) :
    (first >>= next).result = .error error := by
  change (bind first next).result = _
  rw [bind,failed]

theorem result_bind_of_endless (unending : first.result = .endless) :
    (first >>= next).result = .endless := by
  change (bind first next).result = _
  rw [bind,unending]

end Reported

namespace Session

variable {session : Session}

def Readable (type : TypeDescriptor) : Prop := ∃ tags, TagSet.parse type.lines = .ok tags

theorem selectEligible_of_readable {types : List TypeDescriptor}
    (readable : ∀ type ∈ types, Readable type) :
    (selectEligible types).result = .ok (types.filter takesPart) := by
  induction types with
  | nil => rfl
  | cons type rest ih =>
    obtain ⟨⟨tags,parsed⟩,others⟩ := List.forall_mem_cons.mp readable
    rw [selectEligible,parsed]
    refine (Reported.result_bind_of_ok rfl).trans ?_
    refine (Reported.result_bind_of_ok (ih others)).trans ?_
    rw [List.filter_cons,takesPart,parsed]
    dsimp only
    split <;> rfl

theorem selectEligible_of_malformed {before after : List TypeDescriptor}
    (readable : ∀ earlier ∈ before, Readable earlier) {type : TypeDescriptor} {error : TagError}
    (refused : TagSet.parse type.lines = .error error) :
    (selectEligible (before ++ type::after)).result = .error (.invalidTags type.name error) := by
  induction before with
  | nil =>
    rw [List.nil_append,selectEligible,refused]
    rfl
  | cons earlier rest ih =>
    obtain ⟨⟨tags,parsed⟩,others⟩ := List.forall_mem_cons.mp readable
    rw [List.cons_append,selectEligible,parsed]
    exact (Reported.result_bind_of_ok rfl).trans (Reported.result_bind_of_error (ih others))

def claims (session : Session) (names : List Name) : List (String × Name) :=
  (names.map fun name => (session.packageFor name,name)).reverse

theorem lookup_claims {names : List Name} (apart : (names.map session.packageFor).Nodup)
    {name : Name} (member : name ∈ names) :
    (session.claims names).lookup (session.packageFor name) = some name := by
  apply (OrderedMap.lookup_eq_some_iff_mem ?_).mpr
  · exact List.mem_reverse.mpr (List.mem_map_of_mem member)
  · rw [claims,List.map_reverse,List.nodup_reverse,List.map_map]
    exact apart

theorem lookup_claims_of_notMem {names : List Name} {package : String}
    (free : package ∉ names.map session.packageFor) :
    (session.claims names).lookup package = none := by
  rw [List.lookup_eq_none_iff]
  rintro entry member
  obtain ⟨name,inside,rfl⟩ := List.mem_map.mp (List.mem_reverse.mp member)
  rw [bne_iff_ne]
  rintro rfl
  exact free (List.mem_map_of_mem inside)

theorem rejectShared_append {before more : List Name}
    (apart : ((before ++ more).map session.packageFor).Nodup) (rest : List Name) :
    session.rejectShared (session.claims before) (more ++ rest) =
      session.rejectShared (session.claims (before ++ more)) rest := by
  induction more generalizing before with
  | nil => rw [List.nil_append,List.append_nil]
  | cons name more ih =>
    have free : session.packageFor name ∉ before.map session.packageFor := by
      rw [List.map_append,List.map_cons] at apart
      exact fun member => List.disjoint_of_nodup_append apart member List.mem_cons_self
    -- the claims run backwards, so that a new one stands in front of those before
    have extended : session.claims (before ++ [name]) =
        (session.packageFor name,name)::session.claims before := by
      simp [claims]
    rw [List.append_cons] at apart ⊢
    rw [List.cons_append,rejectShared,lookup_claims_of_notMem free,← ih apart,extended]

theorem rejectShared_of_apart {names : List Name} (apart : (names.map session.packageFor).Nodup) :
    session.rejectShared [] names = .ok () := by
  have passed : session.rejectShared (session.claims []) (names ++ []) =
      session.rejectShared (session.claims ([] ++ names)) [] := rejectShared_append apart []
  rw [List.append_nil] at passed
  exact passed

theorem rejectShared_of_claimed {before after : List Name} {earlier later : Name}
    (apart : (before.map session.packageFor).Nodup) (member : earlier ∈ before)
    (same : session.packageFor earlier = session.packageFor later) :
    session.rejectShared [] (before ++ later::after) =
      .error (.sharedPackage earlier later (session.packageFor later)) := by
  have passed : session.rejectShared (session.claims []) (before ++ later::after) =
      session.rejectShared (session.claims ([] ++ before)) (later::after) :=
    rejectShared_append apart _
  refine passed.trans ?_
  rw [List.nil_append,rejectShared,← same,lookup_claims apart member]

theorem type_of_generate {name : Name} {file : InformerFile}
    (generated : (session.generate name).result = .ok file) :
    file.type = name ∧ file.package = session.packageFor name := by
  unfold generate at generated
  split at generated
  · cases generated
  · dsimp only at generated
    split at generated
    · cases generated
    · dsimp only at generated
      split at generated <;> cases generated
      exact ⟨rfl,rfl⟩

theorem generateEach_of_generated {names : List Name}
    (generated : ∀ name ∈ names, ∃ file, (session.generate name).result = .ok file) :
    ∃ files, (session.generateEach names).result = .ok files ∧ files.map (·.type) = names ∧
      ∀ file ∈ files, (session.generate file.type).result = .ok file := by
  induction names with
  | nil => exact ⟨[],rfl,rfl,List.forall_mem_nil _⟩
  | cons name rest ih =>
    obtain ⟨⟨file,first⟩,others⟩ := List.forall_mem_cons.mp generated
    obtain ⟨files,all,types,each⟩ := ih others
    obtain ⟨named,_⟩ := type_of_generate first
    refine ⟨file::files,?_,?_,?_⟩
    · exact (Reported.result_bind_of_ok first).trans (Reported.result_bind_of_ok all)
    · rw [List.map_cons,named,types]
    · exact List.forall_mem_cons.mpr ⟨named.symm ▸ first,each⟩

theorem generateEach_of_failed {before after : List Name}
    (generated : ∀ earlier ∈ before, ∃ file, (session.generate earlier).result = .ok file)
    {name : Name} {error : SessionError} (failed : (session.generate name).result = .error error) :
    (session.generateEach (before ++ name::after)).result = .error error := by
  induction before with
  | nil => exact Reported.result_bind_of_error failed
  | cons earlier rest ih =>
    obtain ⟨⟨file,first⟩,others⟩ := List.forall_mem_cons.mp generated
    exact (Reported.result_bind_of_ok first).trans (Reported.result_bind_of_error (ih others))

theorem generateEach_of_endless {before after : List Name}
    (generated : ∀ earlier ∈ before, ∃ file, (session.generate earlier).result = .ok file)
    {name : Name} (unending : (session.generate name).result = .endless) :
    (session.generateEach (before ++ name::after)).result = .endless := by
  induction before with
  | nil => exact Reported.result_bind_of_endless unending
  | cons earlier rest ih =>
    obtain ⟨⟨file,first⟩,others⟩ := List.forall_mem_cons.mp generated
    exact (Reported.result_bind_of_ok first).trans (Reported.result_bind_of_endless (ih others))

def clients (session : Session) : List Name :=
  (session.known.types.filter takesPart).map (·.name)

theorem clients_ascending (named : session.known.Named) :
    session.clients.Pairwise fun first second => first.order second = .lt :=
  List.pairwise_map.mpr (named.types_ascending.filter _)

/-- There is all that is needed to generate everything. -/
structure Ready (session : Session) : Prop where
  readable : ∀ type ∈ session.known.types, Readable type
  apart : (session.clients.map session.packageFor).Nodup
  generated : ∀ name ∈ session.clients, ∃ file, (session.generate name).result = .ok file

/-- The files are those of all types that want a client, each once. -/
structure Complete (session : Session) (files : List InformerFile) : Prop where
  types_eq : files.map (·.type) = session.clients
  ascending : files.Pairwise fun first second => first.type.order second.type = .lt
  generated : ∀ file ∈ files, (session.generate file.type).result = .ok file
  apart : (files.map (·.package)).Nodup

/-- The causes for which nothing is generated. -/
inductive Failure (session : Session) : SessionError → Prop
  /-- The first type with directives that cannot be read. -/
  | malformed {before after : List TypeDescriptor} {type : TypeDescriptor}
      (order : session.known.types = before ++ type::after)
      (readable : ∀ earlier ∈ before, Readable earlier) {error : TagError}
      (refused : TagSet.parse type.lines = .error error) :
      Failure session (.invalidTags type.name error)
  /-- The first type whose package is claimed, and the one that has claimed it. -/
  | shared (readable : ∀ type ∈ session.known.types, Readable type)
      {before after : List Name} {earlier later : Name}
      (order : session.clients = before ++ later::after)
      (apart : (before.map session.packageFor).Nodup) (member : earlier ∈ before)
      (same : session.packageFor earlier = session.packageFor later) :
      Failure session (.sharedPackage earlier later (session.packageFor later))
  /-- The first type that cannot be generated. -/
  | failed (readable : ∀ type ∈ session.known.types, Readable type)
      (apart : (session.clients.map session.packageFor).Nodup)
      {before after : List Name} {name : Name} (order : session.clients = before ++ name::after)
      (generated : ∀ earlier ∈ before, ∃ file, (session.generate earlier).result = .ok file)
      {error : SessionError} (failed : (session.generate name).result = .error error) :
      Failure session error

/-- There is a type whose generation does not come to an end, and nothing fails before it. -/
structure Stuck (session : Session) : Prop where
  readable : ∀ type ∈ session.known.types, Readable type
  apart : (session.clients.map session.packageFor).Nodup
  unending : ∃ before name after, session.clients = before ++ name::after ∧
    (∀ earlier ∈ before, ∃ file, (session.generate earlier).result = .ok file) ∧
    (session.generate name).result = .endless

theorem generateAll_of_malformed {error : SessionError}
    (malformed : session.eligible.result = .error error) :
    session.generateAll.result = .error error :=
  Reported.result_bind_of_error malformed

theorem generateAll_of_readable (readable : ∀ type ∈ session.known.types, Readable type) :
    session.generateAll.result =
      match session.rejectShared [] session.clients with
      | .error error => .error error
      | .ok () => (session.generateEach session.clients).result := by
  refine (Reported.result_bind_of_ok (selectEligible_of_readable readable)).trans ?_
  change Reported.result (match session.rejectShared [] session.clients with
    | .error error => .fail error
    | .ok () => session.generateEach session.clients) = _
  cases session.rejectShared [] session.clients <;> rfl

theorem generateAll_of_apart (readable : ∀ type ∈ session.known.types, Readable type)
    (apart : (session.clients.map session.packageFor).Nodup) :
    session.generateAll.result = (session.generateEach session.clients).result := by
  rw [generateAll_of_readable readable,rejectShared_of_apart apart]

theorem Failure.generateAll {error : SessionError} (failure : session.Failure error) :
    session.generateAll.result = .error error := by
  cases failure with
  | malformed order readable refused =>
    apply generateAll_of_malformed
    rw [eligible,order]
    exact selectEligible_of_malformed readable refused
  | shared readable order apart member same =>
    rw [generateAll_of_readable readable,order,rejectShared_of_claimed apart member same]
  | failed readable apart order generated failed =>
    rw [generateAll_of_apart readable apart,order]
    exact generateEach_of_failed generated failed

theorem Stuck.generateAll (stuck : session.Stuck) : session.generateAll.result = .endless := by
  obtain ⟨before,name,after,order,generated,unending⟩ := stuck.unending
  rw [generateAll_of_apart stuck.readable stuck.apart,order]
  exact generateEach_of_endless generated unending

theorem Ready.generateAll (ready : session.Ready) (named : session.known.Named) :
    ∃ files, session.generateAll.result = .ok files ∧ session.Complete files := by
  obtain ⟨files,all,types,each⟩ := generateEach_of_generated ready.generated
  have packages : files.map (·.package) = session.clients.map session.packageFor := by
    rw [← types,List.map_map]
    exact List.map_congr_left fun file member => (type_of_generate (each file member)).2
  have ascending := clients_ascending named
  rw [← types,List.pairwise_map] at ascending
  refine ⟨files,(generateAll_of_apart ready.readable ready.apart).trans all,
    types,ascending,each,?_⟩
  rw [packages]
  exact ready.apart

end Session

end InformerGen
