import InformerGen.Proofs.Imports

/-! Trackers can be brought together in any order and in any groups. What comes of it is fixed by
the imports alone that they hold: all of them together when these are one to one, and a refusal
otherwise. -/
namespace InformerGen.ImportTracker

theorem listed_of_perm {imports : ImportTracker} {entries : List (String × String)}
    (permuted : entries.Perm imports.byPath.entries) :
    {entry | entry ∈ entries} = imports.pairs := by
  rw [← imports.listed_entries]
  ext entry
  exact permuted.mem_iff

def allPairs (trackers : List ImportTracker) : Set (String × String) :=
  {entry | ∃ imports ∈ trackers, entry ∈ imports.pairs}

theorem allPairs_append (first second : List ImportTracker) :
    allPairs (first ++ second) = allPairs first ∪ allPairs second := by
  ext entry
  simp only [allPairs,Set.mem_ofPred_eq,Set.mem_union,List.mem_append,or_and_right,exists_or]

theorem allPairs_perm {first second : List ImportTracker} (permuted : first.Perm second) :
    allPairs first = allPairs second := by
  ext entry
  simp only [allPairs,Set.mem_ofPred_eq,permuted.mem_iff]

theorem allPairs_singleton (imports : ImportTracker) : allPairs [imports] = imports.pairs := by
  ext entry
  simp [allPairs]

theorem allPairs_nil : allPairs [] = ∅ := by
  ext entry
  simp [allPairs]

/-- A plan by which trackers are brought together: the results of two plans are merged, the second
into the first. -/
inductive Grouping where
  | fresh
  | one (imports : ImportTracker)
  | both (first second : Grouping)

namespace Grouping

def members : Grouping → List ImportTracker
  | fresh => []
  | one imports => [imports]
  | both first second => first.members ++ second.members

/-- The result of a plan. It fails where one of its merges is refused. -/
def merged : Grouping → Except ImportError ImportTracker
  | fresh => .ok .empty
  | one imports => .ok imports
  | both first second =>
    match first.merged,second.merged with
    | .error error,_ => .error error
    | .ok _,.error error => .error error
    | .ok imports,.ok other =>
      match imports.merge other with
      | (.error error,_) => .error error
      | (.ok (),result) => .ok result

def inOrder (trackers : List ImportTracker) : Grouping :=
  trackers.foldl (fun before imports => both before (one imports)) fresh

theorem members_foldl (trackers : List ImportTracker) (initial : Grouping) :
    (trackers.foldl (fun before imports => both before (one imports)) initial).members =
      initial.members ++ trackers := by
  induction trackers generalizing initial with
  | nil => simp
  | cons imports rest ih => simp [ih,members]

theorem members_inOrder (trackers : List ImportTracker) : (inOrder trackers).members = trackers :=
  members_foldl trackers fresh

theorem merged_both_eq_ok_iff (first second : Grouping) (result : ImportTracker) :
    (both first second).merged = .ok result ↔
      ∃ imports other, first.merged = .ok imports ∧ second.merged = .ok other ∧
        imports.merge other = (.ok (),result) := by
  cases left : first.merged with
  | error error => simp [merged,left]
  | ok imports =>
    cases right : second.merged with
    | error error => simp [merged,left,right]
    | ok other =>
      rcases outcome : imports.merge other with ⟨accepted | refused,next⟩ <;>
        simp [merged,left,right,outcome]

theorem merged_sound {grouping : Grouping}
    (consistent : ∀ imports ∈ grouping.members, imports.Consistent) {result : ImportTracker}
    (computed : grouping.merged = .ok result) :
    result.Consistent ∧ result.pairs = allPairs grouping.members := by
  induction grouping generalizing result with
  | fresh =>
    cases computed
    exact ⟨consistent_empty,pairs_empty.trans allPairs_nil.symm⟩
  | one imports =>
    cases computed
    exact ⟨consistent _ (by simp [members]),(allPairs_singleton _).symm⟩
  | both first second ihFirst ihSecond =>
    simp only [members,List.forall_mem_append] at consistent
    obtain ⟨imports,other,left,right,accepted⟩ := (merged_both_eq_ok_iff _ _ _).mp computed
    obtain ⟨importsConsistent,importsPairs⟩ := ihFirst consistent.1 left
    obtain ⟨otherConsistent,otherPairs⟩ := ihSecond consistent.2 right
    have next : (imports.merge other).2.Consistent := importsConsistent.merge
    have recorded := importsConsistent.records_merge otherConsistent
    rw [accepted] at next recorded
    refine ⟨next,?_⟩
    rw [recorded.pairs_eq rfl,members,allPairs_append,importsPairs,otherPairs]

theorem merged_complete {grouping : Grouping}
    (consistent : ∀ imports ∈ grouping.members, imports.Consistent)
    (fits : OneToOne (allPairs grouping.members)) : ∃ result, grouping.merged = .ok result := by
  induction grouping with
  | fresh => exact ⟨_,rfl⟩
  | one imports => exact ⟨_,rfl⟩
  | both first second ihFirst ihSecond =>
    simp only [members,List.forall_mem_append] at consistent
    rw [members,allPairs_append] at fits
    obtain ⟨imports,left⟩ := ihFirst consistent.1 (fits.mono Set.subset_union_left)
    obtain ⟨other,right⟩ := ihSecond consistent.2 (fits.mono Set.subset_union_right)
    obtain ⟨importsConsistent,importsPairs⟩ := merged_sound consistent.1 left
    obtain ⟨otherConsistent,otherPairs⟩ := merged_sound consistent.2 right
    have recorded := importsConsistent.records_merge otherConsistent
    rw [← importsPairs,← otherPairs] at fits
    have accepted := recorded.accepted_iff.mpr fits
    exact ⟨_,(merged_both_eq_ok_iff _ _ _).mpr ⟨imports,other,left,right,Prod.ext accepted rfl⟩⟩

theorem merged_eq_ok_iff_oneToOne {grouping : Grouping}
    (consistent : ∀ imports ∈ grouping.members, imports.Consistent) :
    (∃ result, grouping.merged = .ok result) ↔ OneToOne (allPairs grouping.members) := by
  refine ⟨fun ⟨result,computed⟩ => ?_,merged_complete consistent⟩
  obtain ⟨resultConsistent,resultPairs⟩ := merged_sound consistent computed
  exact resultPairs ▸ resultConsistent.oneToOne

theorem merged_unique {first second : Grouping}
    (consistent : ∀ imports ∈ first.members, imports.Consistent)
    (permuted : first.members.Perm second.members) {result : ImportTracker}
    (computed : first.merged = .ok result) : second.merged = .ok result := by
  have others : ∀ imports ∈ second.members, imports.Consistent :=
    fun imports member => consistent imports (permuted.mem_iff.mpr member)
  obtain ⟨resultConsistent,resultPairs⟩ := merged_sound consistent computed
  have fits : OneToOne (allPairs second.members) := by
    rw [← allPairs_perm permuted]
    exact (merged_eq_ok_iff_oneToOne consistent).mp ⟨result,computed⟩
  obtain ⟨other,otherComputed⟩ := merged_complete others fits
  obtain ⟨otherConsistent,otherPairs⟩ := merged_sound others otherComputed
  have same : other.pairs = result.pairs := by
    rw [otherPairs,resultPairs,allPairs_perm permuted]
  rw [otherComputed,otherConsistent.ext resultConsistent same]

theorem merged_of_perm {trackers : List ImportTracker}
    (consistent : ∀ imports ∈ trackers, imports.Consistent) :
    (∃ result, result.pairs = allPairs trackers ∧
        ∀ grouping : Grouping, grouping.members.Perm trackers → grouping.merged = .ok result) ∨
      ∀ grouping : Grouping, grouping.members.Perm trackers →
        ∃ error, grouping.merged = .error error := by
  have plan (grouping : Grouping) (permuted : grouping.members.Perm trackers) :
      ∀ imports ∈ grouping.members, imports.Consistent :=
    fun imports member => consistent imports (permuted.mem_iff.mp member)
  by_cases fits : OneToOne (allPairs trackers)
  · left
    have listed : (inOrder trackers).members.Perm trackers := by rw [members_inOrder]
    obtain ⟨result,computed⟩ :=
      merged_complete (plan _ listed) ((allPairs_perm listed).symm ▸ fits)
    refine ⟨result,?_,fun grouping permuted => ?_⟩
    · rw [(merged_sound (plan _ listed) computed).2,allPairs_perm listed]
    · exact merged_unique (plan _ listed) (listed.trans permuted.symm) computed
  · right
    intro grouping permuted
    cases computed : grouping.merged with
    | error error => exact ⟨error,rfl⟩
    | ok result =>
      have whole := (merged_eq_ok_iff_oneToOne (plan _ permuted)).mp ⟨result,computed⟩
      exact absurd (allPairs_perm permuted ▸ whole) fits

end Grouping

namespace Consistent

variable {imports other : ImportTracker}

theorem outcome_eq {target : ImportTracker} (consistent : target.Consistent)
    {added : Set (String × String)} {outcome : Except ImportError Unit × ImportTracker}
    (recorded : Records imports added outcome) (next : outcome.2.Consistent)
    (whole : imports.pairs ∪ added = target.pairs) : outcome = (.ok (),target) := by
  have accepted : outcome.1 = .ok () := recorded.accepted_iff.mpr (whole ▸ consistent.oneToOne)
  have same : outcome.2 = target :=
    next.ext consistent ((recorded.pairs_eq accepted).trans whole)
  exact Prod.ext accepted same

theorem merge_self (consistent : imports.Consistent) : imports.merge imports = (.ok (),imports) :=
  consistent.outcome_eq (consistent.records_merge consistent) consistent.merge (Set.union_self _)

theorem merge_empty (consistent : imports.Consistent) : imports.merge empty = (.ok (),imports) := by
  apply consistent.outcome_eq (consistent.records_merge consistent_empty) consistent.merge
  rw [pairs_empty,Set.union_empty]

theorem empty_merge (consistent : imports.Consistent) : empty.merge imports = (.ok (),imports) := by
  apply consistent.outcome_eq (consistent_empty.records_merge consistent) consistent_empty.merge
  rw [pairs_empty,Set.empty_union]

theorem addAll_eq_ok_iff_merge (consistent : imports.Consistent) (others : other.Consistent)
    {entries : List (String × String)} (permuted : entries.Perm other.byPath.entries) :
    (imports.addAll entries).1 = .ok () ↔ (imports.merge other).1 = .ok () := by
  rw [consistent.addAll_eq_ok_iff,(consistent.records_merge others).accepted_iff,
    listed_of_perm permuted]

theorem addAll_eq_merge (consistent : imports.Consistent) (others : other.Consistent)
    {entries : List (String × String)} (permuted : entries.Perm other.byPath.entries)
    (accepted : (imports.addAll entries).1 = .ok ()) :
    imports.addAll entries = imports.merge other := by
  have alsoAccepted := (consistent.addAll_eq_ok_iff_merge others permuted).mp accepted
  apply Prod.ext (accepted.trans alsoAccepted.symm)
  apply (consistent.addAll entries).ext consistent.merge
  rw [consistent.pairs_addAll accepted,(consistent.records_merge others).pairs_eq alsoAccepted,
    listed_of_perm permuted]

end Consistent

/-- Trackers may be merged in every order and in every grouping: all of these come to one tracker,
which holds the imports of all, or all of them are refused. A tracker merged with itself or with an
empty one stays as it is, and a merge comes to what adding the entries in any order comes to. -/
theorem merging_free_of_order {trackers : List ImportTracker}
    (built : ∀ imports ∈ trackers, Built imports) :
    ((∃ result, result.pairs = allPairs trackers ∧
        ∀ grouping : Grouping, grouping.members.Perm trackers → grouping.merged = .ok result) ∨
      ∀ grouping : Grouping, grouping.members.Perm trackers →
        ∃ error, grouping.merged = .error error) ∧
    (∀ imports ∈ trackers, imports.merge imports = (.ok (),imports) ∧
      imports.merge empty = (.ok (),imports) ∧ empty.merge imports = (.ok (),imports)) ∧
    ∀ imports ∈ trackers, ∀ other ∈ trackers, ∀ entries,
      entries.Perm other.byPath.entries →
        ((imports.addAll entries).1 = .ok () ↔ (imports.merge other).1 = .ok ()) ∧
        ((imports.addAll entries).1 = .ok () → imports.addAll entries = imports.merge other) := by
  have consistent : ∀ imports ∈ trackers, imports.Consistent :=
    fun imports member => (built imports member).consistent
  refine ⟨Grouping.merged_of_perm consistent,fun imports member => ?_,
    fun imports member other otherMember entries permuted => ?_⟩
  · have known := consistent imports member
    exact ⟨known.merge_self,known.merge_empty,known.empty_merge⟩
  · have known := consistent imports member
    have others := consistent other otherMember
    exact ⟨known.addAll_eq_ok_iff_merge others permuted,known.addAll_eq_merge others permuted⟩

/-- The first tracker and the last name two packages by one qualifier, so no plan for the three
succeeds, wherever the second one comes. -/
theorem conflict_in_every_grouping :
    let one := (empty.add "example.com/api/v1" "v1").2
    let two := (empty.add "context" "context").2
    let three := (empty.add "k8s.io/api/core/v1" "v1").2
    (∀ imports ∈ [one,two,three], Built imports) ∧
      ∀ grouping : Grouping, grouping.members.Perm [one,two,three] →
        ∃ error, grouping.merged = .error error := by
  intro one two three
  have built : ∀ imports ∈ [one,two,three], Built imports := by
    simp only [List.forall_mem_cons]
    exact ⟨Built.empty.add _ _,Built.empty.add _ _,Built.empty.add _ _,by simp⟩
  refine ⟨built,?_⟩
  rcases (merging_free_of_order built).1 with ⟨result,_,same⟩ | refused
  · have computed := same (Grouping.inOrder [one,two,three]) (by rw [Grouping.members_inOrder])
    have conflict : (Grouping.inOrder [one,two,three]).merged =
        .error (.qualifierTaken "v1" "example.com/api/v1" "k8s.io/api/core/v1") := by decide
    rw [conflict] at computed
    cases computed
  · exact refused

end InformerGen.ImportTracker
