import InformerGen.Imports
import InformerGen.Proofs.OrderedMap
import Mathlib.Data.Set.Insert

/-! What a tracker records is one to one, after any additions and merges, and a change of it is
recorded as a whole or not at all. A merge asks about every import on its own beforehand and adds
them one after the other afterwards. That the additions go through rests on both trackers: the
imports of either are one to one among themselves, so what fits one by one fits together. -/
namespace InformerGen.ImportTracker

/-- Every path comes with one qualifier, and every qualifier with one path. -/
def OneToOne (imports : Set (String × String)) : Prop :=
  ∀ one ∈ imports, ∀ other ∈ imports, one.1 = other.1 ↔ one.2 = other.2

theorem OneToOne.mono {part whole : Set (String × String)} (fits : OneToOne whole)
    (inside : part ⊆ whole) : OneToOne part :=
  fun one member other otherMember => fits one (inside member) other (inside otherMember)

theorem oneToOne_singleton (entry : String × String) : OneToOne {entry} := by
  rintro one rfl other rfl
  simp

theorem OneToOne.union {first second : Set (String × String)} (left : OneToOne first)
    (right : OneToOne second)
    (across : ∀ one ∈ first, ∀ other ∈ second, one.1 = other.1 ↔ one.2 = other.2) :
    OneToOne (first ∪ second) := by
  rintro one (inFirst | inSecond) other (otherFirst | otherSecond)
  · exact left one inFirst other otherFirst
  · exact across one inFirst other otherSecond
  · rw [eq_comm,across other otherFirst one inSecond,eq_comm]
  · exact right one inSecond other otherSecond

def pairs (imports : ImportTracker) : Set (String × String) :=
  {entry | imports.byPath.get? entry.1 = some entry.2}

theorem mem_entries_iff_mem_pairs (imports : ImportTracker) (entry : String × String) :
    entry ∈ imports.byPath.entries ↔ entry ∈ imports.pairs :=
  imports.byPath.mem_entries_iff entry.1 entry.2

theorem listed_entries (imports : ImportTracker) :
    {entry | entry ∈ imports.byPath.entries} = imports.pairs :=
  Set.ext imports.mem_entries_iff_mem_pairs

private theorem union_listed_cons (known : Set (String × String)) (first : String × String)
    (rest : List (String × String)) :
    known ∪ {entry | entry ∈ first::rest} = known ∪ {first} ∪ {entry | entry ∈ rest} := by
  ext entry
  simp only [Set.mem_union,Set.mem_ofPred_eq,List.mem_cons,Set.mem_singleton_iff,or_assoc]

theorem pairs_empty : empty.pairs = ∅ := by
  apply Set.eq_empty_of_forall_notMem
  intro entry member
  cases member

/-- A qualifier is recorded for a path exactly when the path is recorded for the qualifier. -/
def Consistent (imports : ImportTracker) : Prop :=
  ∀ path qualifier, imports.byPath.get? path = some qualifier ↔
    imports.byQualifier.get? qualifier = some path

theorem consistent_empty : empty.Consistent := by
  intro path qualifier
  simp [empty]

namespace Consistent

variable {imports : ImportTracker}

theorem oneToOne (consistent : imports.Consistent) : OneToOne imports.pairs := by
  rintro ⟨path,qualifier⟩ member ⟨otherPath,otherQualifier⟩ otherMember
  change imports.byPath.get? path = some qualifier at member
  change imports.byPath.get? otherPath = some otherQualifier at otherMember
  constructor
  · intro same
    change path = otherPath at same
    rw [same,otherMember] at member
    exact (Option.some.inj member).symm
  · intro same
    change qualifier = otherQualifier at same
    have known := (consistent _ _).mp member
    rw [same,(consistent _ _).mp otherMember] at known
    exact (Option.some.inj known).symm

theorem ext {other : ImportTracker} (consistent : imports.Consistent)
    (otherConsistent : other.Consistent) (same : imports.pairs = other.pairs) :
    imports = other := by
  have agree (path qualifier : String) : imports.byPath.get? path = some qualifier ↔
      other.byPath.get? path = some qualifier :=
    Set.ext_iff.mp same (path,qualifier)
  have byPath : imports.byPath = other.byPath :=
    OrderedMap.ext_get? fun path => Option.ext (agree path)
  have byQualifier : imports.byQualifier = other.byQualifier := by
    apply OrderedMap.ext_get?
    intro qualifier
    apply Option.ext
    intro path
    rw [← consistent,← otherConsistent,byPath]
  cases imports
  cases other
  cases byPath
  cases byQualifier
  rfl

end Consistent

private theorem filter_ne_eq_none_iff (known : Option String) (wanted : String) :
    known.filter (· != wanted) = none ↔ ∀ existing, known = some existing → existing = wanted := by
  simp [Option.filter_eq_none_iff]

theorem check_eq_ok_iff (imports : ImportTracker) (path qualifier : String) :
    imports.check path qualifier = .ok () ↔
      (∀ existing, imports.byPath.get? path = some existing → existing = qualifier) ∧
      ∀ existing, imports.byQualifier.get? qualifier = some existing → existing = path := by
  rw [← filter_ne_eq_none_iff,← filter_ne_eq_none_iff]
  unfold check
  split
  next existing taken => simp [taken]
  next free =>
    split
    next existing taken => simp [taken]
    next alsoFree => simp [free,alsoFree]

namespace Consistent

variable {imports : ImportTracker}

theorem check_eq_ok_iff (consistent : imports.Consistent) (entry : String × String) :
    imports.check entry.1 entry.2 = .ok () ↔
      ∀ one ∈ imports.pairs, one.1 = entry.1 ↔ one.2 = entry.2 := by
  rw [ImportTracker.check_eq_ok_iff]
  constructor
  · rintro ⟨pathFree,qualifierFree⟩ one member
    constructor
    · intro same
      exact pathFree _ (same ▸ member)
    · intro same
      exact qualifierFree _ (same ▸ (consistent _ _).mp member)
  · intro fits
    refine ⟨fun existing known => ?_,fun existing known => ?_⟩
    · exact (fits (entry.1,existing) known).mp rfl
    · exact (fits (existing,entry.2) ((consistent _ _).mpr known)).mpr rfl

theorem check_eq_ok_iff_oneToOne (consistent : imports.Consistent) (entry : String × String) :
    imports.check entry.1 entry.2 = .ok () ↔ OneToOne (imports.pairs ∪ {entry}) := by
  rw [consistent.check_eq_ok_iff]
  constructor
  · intro fits
    apply consistent.oneToOne.union (oneToOne_singleton entry)
    rintro one member other rfl
    exact fits one member
  · intro fits one member
    exact fits one (.inl member) entry (.inr rfl)

end Consistent

/-- What a change that adds imports comes to. It is accepted exactly when the imports and the added
ones are one to one together, then records them all, and else leaves the tracker as it was. -/
structure Records (imports : ImportTracker) (added : Set (String × String))
    (outcome : Except ImportError Unit × ImportTracker) : Prop where
  accepted_iff : outcome.1 = .ok () ↔ OneToOne (imports.pairs ∪ added)
  pairs_eq : outcome.1 = .ok () → outcome.2.pairs = imports.pairs ∪ added
  unchanged : ∀ error, outcome.1 = .error error → outcome.2 = imports

theorem add_of_check_ok {imports : ImportTracker} {path qualifier : String}
    (accepted : imports.check path qualifier = .ok ()) :
    imports.add path qualifier =
      (.ok (),⟨imports.byPath.insert path qualifier,imports.byQualifier.insert qualifier path⟩) := by
  simp [add,accepted]

theorem add_of_check_error {imports : ImportTracker} {path qualifier : String}
    {error : ImportError} (refused : imports.check path qualifier = .error error) :
    imports.add path qualifier = (.error error,imports) := by
  simp [add,refused]

theorem pairs_add {imports : ImportTracker} {path qualifier : String}
    (accepted : imports.check path qualifier = .ok ()) :
    (imports.add path qualifier).2.pairs = imports.pairs ∪ {(path,qualifier)} := by
  rw [add_of_check_ok accepted]
  obtain ⟨pathFree,_⟩ := (ImportTracker.check_eq_ok_iff _ _ _).mp accepted
  ext ⟨otherPath,otherQualifier⟩
  change (imports.byPath.insert path qualifier).get? otherPath = some otherQualifier ↔
    imports.byPath.get? otherPath = some otherQualifier ∨ (otherPath,otherQualifier) = (path,qualifier)
  rw [OrderedMap.get?_insert]
  by_cases same : otherPath = path
  · subst same
    simp only [if_true,Option.some.injEq,Prod.mk.injEq,true_and]
    refine ⟨fun equal => .inr equal.symm,?_⟩
    rintro (known | equal)
    · exact (pathFree _ known).symm
    · exact equal.symm
  · simp [same]

namespace Consistent

variable {imports other : ImportTracker}

theorem add (consistent : imports.Consistent) (path qualifier : String) :
    (imports.add path qualifier).2.Consistent := by
  cases checked : imports.check path qualifier with
  | error error => rwa [add_of_check_error checked]
  | ok =>
    rw [add_of_check_ok checked]
    obtain ⟨pathFree,qualifierFree⟩ := (ImportTracker.check_eq_ok_iff _ _ _).mp checked
    intro otherPath otherQualifier
    simp only [OrderedMap.get?_insert]
    by_cases samePath : otherPath = path <;> by_cases sameQualifier : otherQualifier = qualifier
    · simp [samePath,sameQualifier]
    · -- The path has no other qualifier, neither before nor now.
      subst samePath
      simp only [if_true,sameQualifier,if_false,Option.some.injEq]
      refine ⟨fun same => absurd same.symm sameQualifier,fun known => ?_⟩
      exact absurd (pathFree _ ((consistent _ _).mpr known)) sameQualifier
    · subst sameQualifier
      simp only [if_true,samePath,if_false,Option.some.injEq]
      refine ⟨fun known => ?_,fun same => absurd same.symm samePath⟩
      exact absurd (qualifierFree _ ((consistent _ _).mp known)) samePath
    · simp only [samePath,sameQualifier,if_false]
      exact consistent otherPath otherQualifier

theorem records_add (consistent : imports.Consistent) (path qualifier : String) :
    Records imports {(path,qualifier)} (imports.add path qualifier) := by
  have accepts := consistent.check_eq_ok_iff_oneToOne (path,qualifier)
  cases checked : imports.check path qualifier with
  | error error =>
    rw [add_of_check_error checked]
    rw [checked] at accepts
    exact ⟨accepts,(nomatch ·),fun _ _ => rfl⟩
  | ok =>
    have same := pairs_add checked
    rw [add_of_check_ok checked] at same ⊢
    rw [checked] at accepts
    exact ⟨accepts,fun _ => same,fun _ => (nomatch ·)⟩

theorem addAll (consistent : imports.Consistent) (entries : List (String × String)) :
    (imports.addAll entries).2.Consistent := by
  induction entries generalizing imports with
  | nil => exact consistent
  | cons entry rest ih =>
    obtain ⟨path,qualifier⟩ := entry
    have next := consistent.add path qualifier
    unfold ImportTracker.addAll
    split
    next error imports added => rwa [added] at next
    next imports added =>
      rw [added] at next
      exact ih next

theorem addAll_eq_ok_iff (consistent : imports.Consistent) (entries : List (String × String)) :
    (imports.addAll entries).1 = .ok () ↔
      OneToOne (imports.pairs ∪ {entry | entry ∈ entries}) := by
  induction entries generalizing imports with
  | nil => simpa [ImportTracker.addAll] using consistent.oneToOne
  | cons entry rest ih =>
    obtain ⟨path,qualifier⟩ := entry
    have next := consistent.add path qualifier
    have recorded := consistent.records_add path qualifier
    rw [union_listed_cons]
    unfold ImportTracker.addAll
    split
    next error refusing added =>
      rw [added] at recorded
      refine ⟨(nomatch ·),fun fits => ?_⟩
      exact recorded.accepted_iff.mpr (fits.mono Set.subset_union_left)
    next accepting added =>
      rw [added] at recorded next
      rw [ih next,recorded.pairs_eq rfl]

theorem pairs_addAll (consistent : imports.Consistent) {entries : List (String × String)}
    (accepted : (imports.addAll entries).1 = .ok ()) :
    (imports.addAll entries).2.pairs = imports.pairs ∪ {entry | entry ∈ entries} := by
  induction entries generalizing imports with
  | nil => simp [ImportTracker.addAll]
  | cons entry rest ih =>
    obtain ⟨path,qualifier⟩ := entry
    have next := consistent.add path qualifier
    have recorded := consistent.records_add path qualifier
    rw [union_listed_cons]
    unfold ImportTracker.addAll at accepted ⊢
    split at accepted
    next error refusing added => cases accepted
    next accepting added =>
      rw [added] at recorded next
      rw [ih next accepted,recorded.pairs_eq rfl]

end Consistent

theorem checkAll_eq_ok_iff (imports : ImportTracker) (entries : List (String × String)) :
    imports.checkAll entries = .ok () ↔
      ∀ entry ∈ entries, imports.check entry.1 entry.2 = .ok () := by
  induction entries with
  | nil => simp [checkAll,pure,Except.pure]
  | cons entry rest ih =>
    have unfolded : imports.checkAll (entry::rest) =
        (imports.check entry.1 entry.2 >>= fun _ => imports.checkAll rest) := rfl
    rw [unfolded,List.forall_mem_cons,← ih]
    cases imports.check entry.1 entry.2 with
    | error error => simp [bind,Except.bind]
    | ok => simp [bind,Except.bind]

namespace Consistent

variable {imports other : ImportTracker}

/-- The imports of one tracker, each asked about alone, pass the check of another exactly when the
imports of both fit together: none of the additions in between can make a later one fail. -/
theorem checkAll_eq_ok_iff (consistent : imports.Consistent) (others : other.Consistent) :
    imports.checkAll other.byPath.entries = .ok () ↔ OneToOne (imports.pairs ∪ other.pairs) := by
  rw [ImportTracker.checkAll_eq_ok_iff]
  constructor
  · intro fits
    apply consistent.oneToOne.union others.oneToOne
    intro one member entry otherMember
    have checked := fits entry ((other.mem_entries_iff_mem_pairs entry).mpr otherMember)
    exact (consistent.check_eq_ok_iff entry).mp checked one member
  · intro fits entry listed
    have otherMember := (other.mem_entries_iff_mem_pairs entry).mp listed
    rw [consistent.check_eq_ok_iff]
    exact fun one member => fits one (.inl member) entry (.inr otherMember)

theorem addAll_entries_eq_ok_iff (consistent : imports.Consistent) :
    (imports.addAll other.byPath.entries).1 = .ok () ↔ OneToOne (imports.pairs ∪ other.pairs) := by
  rw [consistent.addAll_eq_ok_iff,listed_entries]

theorem merge (consistent : imports.Consistent) : (imports.merge other).2.Consistent := by
  unfold ImportTracker.merge
  split
  next error refused => exact consistent
  next accepted => exact consistent.addAll other.byPath.entries

theorem records_merge (consistent : imports.Consistent) (others : other.Consistent) :
    Records imports other.pairs (imports.merge other) := by
  have accepts := consistent.checkAll_eq_ok_iff others
  unfold ImportTracker.merge
  split
  next error refused =>
    rw [refused] at accepts
    exact ⟨accepts,(nomatch ·),fun _ _ => rfl⟩
  next accepted =>
    have added := consistent.addAll_entries_eq_ok_iff.mpr (accepts.mp accepted)
    refine ⟨consistent.addAll_entries_eq_ok_iff,fun _ => ?_,fun error refused => ?_⟩
    · rw [consistent.pairs_addAll added,listed_entries]
    · rw [added] at refused
      cases refused

end Consistent

/-- The trackers that come from empty ones by additions and merges, accepted or refused, where the
merged trackers have come about in the same way. -/
inductive Built : ImportTracker → Prop
  | empty : Built .empty
  | add {imports : ImportTracker} (built : Built imports) (path qualifier : String) :
      Built (imports.add path qualifier).2
  | merge {imports other : ImportTracker} (built : Built imports) (others : Built other) :
      Built (imports.merge other).2

theorem Built.consistent {imports : ImportTracker} (built : Built imports) :
    imports.Consistent := by
  induction built with
  | empty => exact consistent_empty
  | add built path qualifier ih => exact ih.add path qualifier
  | merge built others ih _ => exact ih.merge

/-- In a tracker that has come about by additions and merges, the two maps are each the inverse of
the other, and every further addition or merge is recorded as a whole or not at all. -/
theorem built_oneToOne_and_atomic {imports : ImportTracker} (built : Built imports) :
    imports.Consistent ∧ OneToOne imports.pairs ∧
      (∀ path qualifier, Records imports {(path,qualifier)} (imports.add path qualifier)) ∧
      ∀ other, Built other → Records imports other.pairs (imports.merge other) :=
  ⟨built.consistent,built.consistent.oneToOne,built.consistent.records_add,
    fun _ others => built.consistent.records_merge others.consistent⟩

/-- One of two imports fits, the other brings a second package for a known qualifier: neither is
recorded. -/
theorem conflicting_merge_leaves_tracker :
    let imports := (empty.add "example.com/api/v1" "v1").2
    let other := ((empty.add "context" "context").2.add "k8s.io/api/core/v1" "v1").2
    Built imports ∧ Built other ∧
      (imports.merge other).1 =
        .error (.qualifierTaken "v1" "example.com/api/v1" "k8s.io/api/core/v1") ∧
      (imports.merge other).2 = imports := by
  intro imports other
  have built : Built imports := Built.empty.add _ _
  have others : Built other := (Built.empty.add _ _).add _ _
  have refused : (imports.merge other).1 =
      .error (.qualifierTaken "v1" "example.com/api/v1" "k8s.io/api/core/v1") := by decide
  obtain ⟨_,_,_,merges⟩ := built_oneToOne_and_atomic built
  exact ⟨built,others,refused,(merges other others).unchanged _ refused⟩

end InformerGen.ImportTracker
