import InformerGen.Alias.Table
import InformerGen.Proofs.Alias.Candidates
import Mathlib.Data.List.Nodup

/-! The rounds in which paths move on to longer candidates come to rest, and a path moves past a
candidate for a reason: the candidate is blocked, or some other path stood at it. A path that is at
rest at a blocked or shared candidate has no longer one. -/
namespace InformerGen.Alias

namespace Contender

variable {contender : Contender}

@[simp] theorem path_advance (contender : Contender) : contender.advance.path = contender.path := by
  unfold advance
  split <;> rfl

@[simp] theorem candidates_advance (contender : Contender) :
    contender.advance.candidates = contender.candidates := by
  unfold advance
  split <;> rfl

theorem level_le_advance (contender : Contender) : contender.level ≤ contender.advance.level := by
  unfold advance
  split
  · exact Nat.le_succ _
  · exact Nat.le_refl _

theorem level_advance_le (contender : Contender) :
    contender.advance.level ≤ contender.level + 1 := by
  unfold advance
  split
  · exact Nat.le_refl _
  · exact Nat.le_succ _

theorem advance_eq_or_spare_lt (contender : Contender) :
    contender.advance = contender ∨ contender.advance.spare < contender.spare := by
  unfold advance
  split
  next more =>
    right
    simp only [spare]
    omega
  next last => exact .inl rfl

theorem last_of_advance_eq (stays : contender.advance = contender) :
    contender.candidates.length ≤ contender.level + 1 := by
  by_contra more
  have level := congrArg Contender.level stays
  rw [advance,if_pos (by omega)] at level
  exact Nat.succ_ne_self _ level

structure Placed (contender : Contender) : Prop where
  candidates_eq : contender.candidates = Alias.candidates contender.path
  inside : contender.level < contender.candidates.length

theorem placed_start (path : String) : (start path).Placed := by
  constructor <;> dsimp only [start]
  exact List.length_pos_iff.mpr (candidates_ne_nil path)

namespace Placed

theorem advance (placed : contender.Placed) : contender.advance.Placed := by
  refine ⟨by simpa using placed.candidates_eq,?_⟩
  rw [candidates_advance]
  unfold Contender.advance
  split
  · assumption
  · exact placed.inside

theorem getElem?_level (placed : contender.Placed) :
    contender.candidates[contender.level]? = some contender.current := by
  rw [Contender.current,List.getElem?_eq_getElem placed.inside]
  rfl

theorem current_mem (placed : contender.Placed) :
    contender.current ∈ Alias.candidates contender.path := by
  rw [← placed.candidates_eq]
  exact List.mem_of_getElem? placed.getElem?_level

end Placed

end Contender

section Moved

variable (reserved : List String) (contenders : List Contender) (contender : Contender)

@[simp] theorem path_moved : (moved reserved contenders contender).path = contender.path := by
  unfold moved
  split <;> simp

@[simp] theorem candidates_moved :
    (moved reserved contenders contender).candidates = contender.candidates := by
  unfold moved
  split <;> simp

theorem level_le_moved : contender.level ≤ (moved reserved contenders contender).level := by
  unfold moved
  split
  · exact contender.level_le_advance
  · exact Nat.le_refl _

theorem moved_eq_or_spare_lt :
    moved reserved contenders contender = contender ∨
      (moved reserved contenders contender).spare < contender.spare := by
  unfold moved
  split
  · exact contender.advance_eq_or_spare_lt
  · exact .inl rfl

theorem placed_moved (placed : contender.Placed) :
    (moved reserved contenders contender).Placed := by
  unfold moved
  split
  · exact placed.advance
  · exact placed

theorem mustMove_of_lt_moved {level : Nat} (reached : contender.level ≤ level)
    (below : level < (moved reserved contenders contender).level) :
    mustMove reserved contenders contender = true ∧ level = contender.level := by
  have bound := contender.level_advance_le
  unfold moved at below
  split at below
  next moves => exact ⟨moves,by omega⟩
  next stays => omega

end Moved

theorem map_eq_or_roundLimit_lt {move : Contender → Contender}
    (step : ∀ contender, move contender = contender ∨ (move contender).spare < contender.spare)
    (contenders : List Contender) :
    contenders.map move = contenders ∨
      roundLimit (contenders.map move) < roundLimit contenders := by
  induction contenders with
  | nil => exact .inl rfl
  | cons contender rest ih =>
    simp only [List.map_cons,roundLimit]
    rcases step contender with stays | less <;> rcases ih with same | fewer
    · exact .inl (by rw [stays,same])
    · right
      rw [stays]
      omega
    · right
      rw [same]
      omega
    · right
      omega

/-- A round that moves anything uses up a spare candidate. -/
theorem round_eq_or_roundLimit_lt (reserved : List String) (contenders : List Contender) :
    round reserved contenders = contenders ∨
      roundLimit (round reserved contenders) < roundLimit contenders :=
  map_eq_or_roundLimit_lt (moved_eq_or_spare_lt reserved contenders) contenders

theorem round_settle (reserved : List String) {rounds : Nat} {contenders : List Contender}
    (enough : roundLimit contenders ≤ rounds) :
    round reserved (settle reserved rounds contenders) = settle reserved rounds contenders := by
  induction rounds generalizing contenders with
  | zero =>
    rcases round_eq_or_roundLimit_lt reserved contenders with rest | less
    · exact rest
    · omega
  | succ rounds ih =>
    rw [settle]
    split
    next rest => exact rest
    next moved =>
      rcases round_eq_or_roundLimit_lt reserved contenders with rest | less
      · exact absurd rest moved
      · exact ih (by omega)

theorem settle_induction {reserved : List String} {Holds : List Contender → Prop}
    (keeps : ∀ contenders, Holds contenders → Holds (round reserved contenders))
    (rounds : Nat) {contenders : List Contender} (initial : Holds contenders) :
    Holds (settle reserved rounds contenders) := by
  induction rounds generalizing contenders with
  | zero => exact initial
  | succ rounds ih =>
    rw [settle]
    split
    · exact initial
    · exact ih (keeps contenders initial)

theorem isShared_iff {contenders : List Contender}
    (distinct : (contenders.map Contender.path).Nodup) {contender : Contender}
    (member : contender ∈ contenders) :
    isShared contenders contender.current = true ↔
      ∃ other ∈ contenders, other.path ≠ contender.path ∧ other.current = contender.current := by
  let sharing := contenders.filter (·.current == contender.current)
  have shares {other : Contender} :
      other ∈ sharing ↔ other ∈ contenders ∧ other.current = contender.current := by
    simp [sharing]
  have counted : isShared contenders contender.current = true ↔ 1 < sharing.length := by
    simp [isShared,sharing,List.countP_eq_length_filter]
  rw [counted]
  constructor
  · intro several
    by_contra alone
    have only : sharing ⊆ [contender] := by
      intro other inside
      obtain ⟨otherMember,same⟩ := shares.mp inside
      rw [List.mem_singleton]
      apply List.inj_on_of_nodup_map distinct otherMember member
      by_contra apart
      exact alone ⟨other,otherMember,apart,same⟩
    have length : sharing.length ≤ [contender].length :=
      (distinct.of_map.filter _).length_le_of_subset only
    rw [List.length_singleton] at length
    omega
  · rintro ⟨other,otherMember,apart,same⟩
    have pair : [contender,other].Nodup := by
      simp only [List.nodup_cons,List.mem_singleton,List.not_mem_nil,not_false_eq_true,
        List.nodup_nil,and_true]
      rintro rfl
      exact apart rfl
    have inside : [contender,other] ⊆ sharing := by
      intro one listed
      simp only [List.mem_cons,List.not_mem_nil,or_false] at listed
      rcases listed with rfl | rfl
      · exact shares.mpr ⟨member,rfl⟩
      · exact shares.mpr ⟨otherMember,same⟩
    exact pair.length_le_of_subset inside

/-- What holds of the contenders for some paths after every round. A path has passed a candidate
only because the candidate is blocked, or is one that another path stands at or has passed. -/
structure LevelInvariant (reserved paths : List String) (contenders : List Contender) : Prop where
  paths_eq : contenders.map Contender.path = paths
  placed : ∀ contender ∈ contenders, contender.Placed
  passed : ∀ contender ∈ contenders, ∀ level < contender.level,
    ∀ candidate, contender.candidates[level]? = some candidate →
      isBlocked reserved candidate = true ∨
        ∃ other ∈ contenders, other.path ≠ contender.path ∧
          ∃ otherLevel ≤ other.level, other.candidates[otherLevel]? = some candidate

theorem levelInvariant_start (reserved paths : List String) :
    LevelInvariant reserved paths (paths.map Contender.start) := by
  refine ⟨?_,?_,?_⟩
  · rw [List.map_map]
    exact List.map_id _
  · intro contender member
    obtain ⟨path,_,rfl⟩ := List.mem_map.mp member
    exact Contender.placed_start path
  · intro contender member level below
    obtain ⟨path,_,rfl⟩ := List.mem_map.mp member
    exact absurd below (Nat.not_lt_zero _)

namespace LevelInvariant

variable {reserved paths : List String} {contenders : List Contender}

theorem paths_distinct (invariant : LevelInvariant reserved paths contenders)
    (distinct : paths.Nodup) : (contenders.map Contender.path).Nodup :=
  invariant.paths_eq.symm ▸ distinct

theorem contested (invariant : LevelInvariant reserved paths contenders) (distinct : paths.Nodup)
    {contender : Contender} (member : contender ∈ contenders)
    (moves : mustMove reserved contenders contender = true) :
    isBlocked reserved contender.current = true ∨
      ∃ other ∈ contenders, other.path ≠ contender.path ∧
        other.candidates[other.level]? = some contender.current := by
  rw [mustMove,Bool.or_eq_true] at moves
  rcases moves with blocked | shared
  · exact .inl blocked
  · right
    obtain ⟨other,otherMember,apart,same⟩ :=
      (isShared_iff (invariant.paths_distinct distinct) member).mp shared
    exact ⟨other,otherMember,apart,same ▸ (invariant.placed other otherMember).getElem?_level⟩

theorem remains {contender : Contender} {candidate : String}
    (known : ∃ other ∈ contenders, other.path ≠ contender.path ∧
      ∃ level ≤ other.level, other.candidates[level]? = some candidate) :
    ∃ other ∈ Alias.round reserved contenders,
      other.path ≠ (moved reserved contenders contender).path ∧
        ∃ level ≤ other.level, other.candidates[level]? = some candidate := by
  obtain ⟨other,member,apart,level,below,found⟩ := known
  refine ⟨moved reserved contenders other,List.mem_map_of_mem member,?_,level,?_,?_⟩
  · rwa [path_moved,path_moved]
  · exact below.trans (level_le_moved reserved contenders other)
  · rwa [candidates_moved]

theorem round (invariant : LevelInvariant reserved paths contenders) (distinct : paths.Nodup) :
    LevelInvariant reserved paths (round reserved contenders) := by
  refine ⟨?_,?_,?_⟩
  · rw [← invariant.paths_eq,Alias.round,List.map_map]
    exact List.map_congr_left fun contender _ => path_moved reserved contenders contender
  · intro next member
    obtain ⟨contender,known,rfl⟩ := List.mem_map.mp member
    exact placed_moved reserved contenders contender (invariant.placed contender known)
  · intro next member level below candidate found
    obtain ⟨contender,known,rfl⟩ := List.mem_map.mp member
    rw [candidates_moved] at found
    rcases Nat.lt_or_ge level contender.level with before | reached
    · exact (invariant.passed contender known level before candidate found).imp_right remains
    · obtain ⟨moves,rfl⟩ := mustMove_of_lt_moved reserved contenders contender reached below
      rw [(invariant.placed contender known).getElem?_level,Option.some.injEq] at found
      subst found
      refine (invariant.contested distinct known moves).imp_right fun met => remains ?_
      obtain ⟨other,otherMember,apart,stands⟩ := met
      exact ⟨other,otherMember,apart,other.level,Nat.le_refl _,stands⟩

end LevelInvariant

theorem levelInvariant_levelled (reserved : List String) {paths : List String}
    (distinct : paths.Nodup) : LevelInvariant reserved paths (levelled reserved paths) :=
  settle_induction (fun _ invariant => invariant.round distinct) _
    (levelInvariant_start reserved paths)

theorem round_levelled (reserved paths : List String) :
    round reserved (levelled reserved paths) = levelled reserved paths :=
  round_settle reserved (Nat.le_refl _)

theorem last_of_mustMove {reserved paths : List String} {contender : Contender}
    (member : contender ∈ levelled reserved paths)
    (moves : mustMove reserved (levelled reserved paths) contender = true) :
    contender.candidates.length ≤ contender.level + 1 := by
  apply Contender.last_of_advance_eq
  have fixed := (round_levelled reserved paths).trans (List.map_id _).symm
  have stays := List.map_inj_left.mp fixed contender member
  rwa [moved,if_pos moves] at stays

end InformerGen.Alias
