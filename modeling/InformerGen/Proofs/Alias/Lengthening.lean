import InformerGen.Proofs.Alias.Ending
import InformerGen.Proofs.Alias.Turns

/-! Where the paths stand when the rounds have come to rest, and why. A path that may not stay at its
candidate has no longer one, and a path has passed a candidate only if that is blocked or another path
has come as far as to it. Paths that are left at one candidate are told apart by numbers, which go up
in the order of the paths: whatever form is refused to a path is refused to those after it. -/
namespace InformerGen.Alias

namespace Contender

/-- The path stands at the candidate or has passed it. -/
def Reached (contender : Contender) (candidate : String) : Prop :=
  ∃ level ≤ contender.level, contender.candidates[level]? = some candidate

theorem Placed.getLast?_eq_current {contender : Contender} (placed : contender.Placed)
    (last : contender.candidates.length ≤ contender.level+1) :
    (Alias.candidates contender.path).getLast? = some contender.current := by
  have inside := placed.inside
  have place : contender.candidates.length-1 = contender.level := by omega
  rw [← placed.candidates_eq,List.getLast?_eq_getElem?,place]
  exact placed.getElem?_level

end Contender

theorem Available.anti {reserved taken later : List String} {name : String}
    (more : ∀ other ∈ taken, other ∈ later) (free : Available reserved later name) :
    Available reserved taken name :=
  ⟨free.1,fun known => free.2 (more name known)⟩

theorem firstFree_ascends {candidate : String}
    (spelled : Identifier.wellSpelled candidate.toList = true) {reserved taken later : List String}
    (more : ∀ other ∈ taken, other ∈ later) (given : firstFree reserved taken candidate ∈ later) :
    ∃ low high, low < high ∧ firstFree reserved taken candidate = numbered candidate low ∧
      firstFree reserved later candidate = numbered candidate high := by
  obtain ⟨low,found,_,refused⟩ := exists_first_available spelled reserved taken
  obtain ⟨high,foundLater,free,_⟩ := exists_first_available spelled reserved later
  refine ⟨low,high,?_,found,foundLater⟩
  -- What is free with more aliases taken is free with fewer, so no lower number can be the later one.
  rcases Nat.lt_trichotomy low high with less | same | greater
  · exact less
  · rw [found,same] at given
    exact absurd given free.2
  · exact absurd (free.anti more) (refused high greater)

end InformerGen.Alias

namespace InformerGen.AliasTable

open Alias

variable {paths reserved : List String} {first second contender : Contender}

theorem last_of_contested (member : contender ∈ settled paths reserved)
    (contested : isBlocked reserved contender.current = true ∨
      ∃ other ∈ settled paths reserved, other.path ≠ contender.path ∧
        other.current = contender.current) :
    (candidates contender.path).getLast? = some contender.current := by
  have moves : mustMove reserved (settled paths reserved) contender = true := by
    rw [mustMove,Bool.or_eq_true,isShared_iff (settled_nodup paths reserved) member]
    exact contested
  have placed := (settled_invariant paths reserved).placed contender member
  exact placed.getLast?_eq_current (last_of_mustMove member moves)

theorem alias?_settled (member : contender ∈ settled paths reserved) :
    ∃ before after, settled paths reserved = before ++ contender::after ∧
      (build paths reserved).alias? contender.path =
        some (firstFree reserved ((number reserved [] before).map (·.2)).reverse
          contender.current) := by
  have assigned : ((build paths reserved).alias? contender.path).isSome :=
    alias?_isSome_iff.mpr (path_of_mem_settled member)
  obtain ⟨name,known⟩ := Option.isSome_iff_exists.mp assigned
  obtain ⟨before,holder,after,parts,path,given⟩ := exists_settled_of_alias? known
  have listed : holder ∈ settled paths reserved := by simp [parts]
  obtain rfl := settled_unique listed member path
  exact ⟨before,after,parts,known.trans (congrArg some given)⟩

theorem Ends.numbers_ascend (ends : Ends paths reserved) (left : first ∈ settled paths reserved)
    (right : second ∈ settled paths reserved) (less : first.path < second.path)
    (same : first.current = second.current) :
    ∃ low high, low < high ∧
      (build paths reserved).alias? first.path = some (numbered first.current low) ∧
      (build paths reserved).alias? second.path = some (numbered second.current high) := by
  have spelled := ends_iff_wellSpelled.mp ends first left
  obtain ⟨before,_,parts,known⟩ := alias?_settled left
  obtain ⟨sooner,_,laterParts,laterKnown⟩ := alias?_settled right
  rw [← same] at laterKnown ⊢
  have more : ∀ name ∈ ((number reserved [] before).map (·.2)).reverse,
      name ∈ ((number reserved [] sooner).map (·.2)).reverse := by
    intro name taken
    obtain ⟨earlier,before,gone⟩ := (mem_taken_iff parts).mp (List.mem_reverse.mp taken)
    rw [List.mem_reverse,mem_taken_iff laterParts]
    exact ⟨earlier,String.lt_trans before less,gone⟩
  have given : firstFree reserved ((number reserved [] before).map (·.2)).reverse first.current ∈
      ((number reserved [] sooner).map (·.2)).reverse := by
    rw [List.mem_reverse,mem_taken_iff laterParts]
    exact ⟨first.path,less,known⟩
  obtain ⟨low,high,ascends,found,foundLater⟩ := firstFree_ascends spelled more given
  exact ⟨low,high,ascends,found ▸ known,foundLater ▸ laterKnown⟩

/-- The rounds come to rest, and then aliases are as long as there is need. A path that would have to
move on stands at its last candidate. A candidate that a path has passed is blocked, or some other path
has reached it. Paths that are left at one candidate get ascending numbers, the first of them possibly
none. -/
theorem Ends.lengthened_as_needed (ends : Ends paths reserved) :
    (∃ turns, ∀ count final,
      Rounds reserved ((distinctPaths paths).map Contender.start) count final ↔
        count = turns ∧ final = settled paths reserved) ∧
    (∀ contender ∈ settled paths reserved, contender.Placed ∧
      ((isBlocked reserved contender.current = true ∨
        ∃ other ∈ settled paths reserved, other.path ≠ contender.path ∧
          other.current = contender.current) →
        (candidates contender.path).getLast? = some contender.current) ∧
      ∀ level < contender.level, ∀ candidate, contender.candidates[level]? = some candidate →
        isBlocked reserved candidate = true ∨
          ∃ other ∈ settled paths reserved, other.path ≠ contender.path ∧
            other.Reached candidate) ∧
    ∀ first ∈ settled paths reserved, ∀ second ∈ settled paths reserved,
      first.path < second.path → first.current = second.current →
      ∃ low high, low < high ∧
        (build paths reserved).alias? first.path = some (numbered first.current low) ∧
        (build paths reserved).alias? second.path = some (numbered second.current high) := by
  have invariant := settled_invariant paths reserved
  refine ⟨?_,fun contender member => ⟨invariant.placed contender member,
    last_of_contested member,invariant.passed contender member⟩,
    fun first left second right => ends.numbers_ascend left right⟩
  obtain ⟨turns,_,run⟩ := exists_rounds_settle reserved
    (Nat.le_refl (roundLimit ((distinctPaths paths).map Contender.start)))
  exact ⟨turns,run.iff_eq⟩

/-- Three paths with one candidate each, the same one, and a path that had to pass it. -/
theorem versions_lengthened :
    let paths := ["k8s.io/api/core/v1","v1","v.1","v-1"]
    Ends paths [] ∧
      (∃ other ∈ settled paths [], other.path ≠ "k8s.io/api/core/v1" ∧ other.Reached "v1") ∧
      (build paths []).alias? "k8s.io/api/core/v1" = some "corev1" ∧
      (candidates "v-1").getLast? = some "v1" ∧
      ∃ low high, low < high ∧ (build paths []).alias? "v.1" = some (numbered "v1" low) ∧
        (build paths []).alias? "v1" = some (numbered "v1" high) := by
  intro paths
  have ends : Ends paths [] := ends_of_spellable (by decide +kernel) []
  have rest : settled paths [] =
      [⟨"k8s.io/api/core/v1",candidates "k8s.io/api/core/v1",1⟩,⟨"v-1",candidates "v-1",0⟩,
        ⟨"v.1",candidates "v.1",0⟩,⟨"v1",candidates "v1",0⟩] := by
    decide +kernel
  obtain ⟨_,justified,ascending⟩ := ends.lengthened_as_needed
  have core := justified ⟨"k8s.io/api/core/v1",candidates "k8s.io/api/core/v1",1⟩ (by simp [rest])
  have dashed := justified ⟨"v-1",candidates "v-1",0⟩ (by simp [rest])
  refine ⟨ends,?_,by decide +kernel,?_,?_⟩
  · exact (core.2.2 0 Nat.one_pos "v1" (by decide)).resolve_left (by decide)
  · refine dashed.2.1 (.inr ⟨⟨"v1",candidates "v1",0⟩,by simp [rest],by decide,by decide⟩)
  · exact ascending ⟨"v.1",candidates "v.1",0⟩ (by simp [rest])
      ⟨"v1",candidates "v1",0⟩ (by simp [rest]) (by decide) (by decide)

end InformerGen.AliasTable
