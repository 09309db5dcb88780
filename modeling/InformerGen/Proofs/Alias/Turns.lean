import InformerGen.Proofs.Alias.Assignment

/-! How many turns the building of a table takes. It has two loops that go on until there is nothing
left to do: the rounds in which paths move on to longer candidates, and for each path the search for
a form of its candidate that may be given. A round that moves anything uses up a candidate. A form
that is refused is reserved or taken, but for the candidate itself, which may be a keyword; and no two
forms are alike. -/
namespace InformerGen.Alias

universe u

/-- A loop makes so many turns from one state to another: it goes on from every state that is not
done, and the turn that finds a state done is the last. -/
inductive Turns {State : Type u} (step : State → State) (Done : State → Prop) :
    State → Nat → State → Prop
  | last {state : State} (done : Done state) : Turns step Done state 1 state
  | next {state final : State} {turns : Nat} (unfinished : ¬Done state)
      (later : Turns step Done (step state) turns final) : Turns step Done state (turns+1) final

namespace Turns

variable {State : Type u} {step : State → State} {Done : State → Prop} {state final : State}
  {turns : Nat}

theorem unique (run : Turns step Done state turns final) {count : Nat} {reached : State}
    (other : Turns step Done state count reached) : count = turns ∧ reached = final := by
  induction run generalizing count with
  | last done =>
    cases other with
    | last _ => exact ⟨rfl,rfl⟩
    | next unfinished _ => exact absurd done unfinished
  | next unfinished _ ih =>
    cases other with
    | last done => exact absurd done unfinished
    | next _ later =>
      obtain ⟨rfl,rfl⟩ := ih later
      exact ⟨rfl,rfl⟩

theorem done (run : Turns step Done state turns final) : Done final := by
  induction run with
  | last done => exact done
  | next _ _ ih => exact ih

theorem iff_eq (run : Turns step Done state turns final) (count : Nat) (reached : State) :
    Turns step Done state count reached ↔ count = turns ∧ reached = final := by
  constructor
  · exact run.unique
  · rintro ⟨rfl,rfl⟩
    exact run

theorem of_first {Done : Nat → Prop} {first place : Nat} (done : Done (first+place))
    (before : ∀ earlier < place, ¬Done (first+earlier)) :
    Turns (·+1) Done first (place+1) (first+place) := by
  induction place generalizing first with
  | zero => exact .last done
  | succ place ih =>
    have shift (n : Nat) : first+(n+1) = first+1+n := by omega
    rw [shift] at done ⊢
    refine .next (before 0 (Nat.succ_pos _)) (ih done fun earlier less => ?_)
    rw [← shift]
    exact before (earlier+1) (Nat.succ_lt_succ less)

end Turns

/-- The rounds that settle contenders. The last of them moves nothing. -/
def Rounds (reserved : List String) : List Contender → Nat → List Contender → Prop :=
  Turns (round reserved) fun contenders => round reserved contenders = contenders

/-- The tries to find an available form of a candidate, the candidate itself first. -/
def Tries (reserved taken : List String) (candidate : String) : Nat → Nat → Prop :=
  Turns (·+1) (fun tries => Available reserved taken (numbered candidate tries)) 0

def spareCandidates : List String → Nat
  | [] => 0
  | path::rest => ((candidates path).length-1) + spareCandidates rest

theorem roundLimit_start (paths : List String) :
    roundLimit (paths.map Contender.start) = spareCandidates paths := by
  induction paths with
  | nil => rfl
  | cons path rest ih =>
    rw [List.map_cons,roundLimit,ih,spareCandidates,Contender.spare,Contender.start,Nat.sub_zero]

/-- Settling makes one round more, at most, than there are spare candidates. -/
theorem exists_rounds_settle (reserved : List String) {limit : Nat} {contenders : List Contender}
    (enough : roundLimit contenders ≤ limit) :
    ∃ turns ≤ roundLimit contenders+1,
      Rounds reserved contenders turns (settle reserved limit contenders) := by
  induction limit generalizing contenders with
  | zero =>
    rcases round_eq_or_roundLimit_lt reserved contenders with rest | less
    · exact ⟨1,by omega,.last rest⟩
    · omega
  | succ limit ih =>
    rw [settle]
    split
    next rest => exact ⟨1,by omega,.last rest⟩
    next moved =>
      rcases round_eq_or_roundLimit_lt reserved contenders with rest | less
      · exact absurd rest moved
      · have smaller : roundLimit (round reserved contenders) ≤ limit := by omega
        obtain ⟨turns,bound,run⟩ := ih smaller
        exact ⟨turns+1,by omega,.next moved run⟩

theorem tries_of_search {reserved taken : List String} {candidate : String} {tries : Nat}
    (found : search reserved taken candidate = some tries) :
    Tries reserved taken candidate (tries+1) tries := by
  obtain ⟨_,available,refused⟩ := search_eq_some_iff.mp found
  have run : Tries reserved taken candidate (tries+1) (0+tries) := by
    apply Turns.of_first <;> simpa only [Nat.zero_add]
  rwa [Nat.zero_add] at run

theorem exists_tries {candidate : String}
    (spelled : Identifier.wellSpelled candidate.toList = true) (reserved taken : List String) :
    ∃ tries ≤ reserved.length+taken.length+1, Tries reserved taken candidate (tries+1) tries ∧
      Available reserved taken (numbered candidate tries) ∧
      firstFree reserved taken candidate = numbered candidate tries := by
  obtain ⟨tries,found⟩ := exists_search spelled reserved taken
  obtain ⟨bound,available,_⟩ := search_eq_some_iff.mp found
  exact ⟨tries,bound,tries_of_search found,available,firstFree_of_search found⟩

end InformerGen.Alias

namespace InformerGen.AliasTable

open Alias

variable {paths reserved : List String}

theorem length_taken_lt {before after : List Contender} {contender : Contender}
    (parts : settled paths reserved = before ++ contender::after) :
    ((number reserved [] before).map (·.2)).length < (distinctPaths paths).length := by
  have given := congrArg List.length (map_path_number reserved [] before)
  have whole := congrArg List.length (settled_paths paths reserved)
  rw [parts] at whole
  simp only [List.length_map,List.length_append,List.length_cons] at given whole ⊢
  omega

/-- The building of a table comes to an end. The rounds stop after one more, at most, than there are
candidates beyond the first of each path, and each search succeeds with one of as many forms as there
are reserved words and paths, and one more. -/
theorem build_within_turns (spellable : ∀ path ∈ paths, Spellable path) (reserved : List String) :
    (∃ turns ≤ spareCandidates (distinctPaths paths)+1, ∀ count final,
      Rounds reserved ((distinctPaths paths).map Contender.start) count final ↔
        count = turns ∧ final = settled paths reserved) ∧
    ∀ path ∈ paths, path ≠ "" → ∃ before contender after,
      settled paths reserved = before ++ contender::after ∧ contender.path = path ∧
      let taken := ((number reserved [] before).map (·.2)).reverse
      ∃ turns ≤ reserved.length+(distinctPaths paths).length+1, ∃ tries,
        (∀ count final, Tries reserved taken contender.current count final ↔
          count = turns ∧ final = tries) ∧
        Available reserved taken (numbered contender.current tries) ∧
        (build paths reserved).alias? path = some (numbered contender.current tries) := by
  constructor
  · obtain ⟨turns,bound,run⟩ := exists_rounds_settle reserved
      (Nat.le_refl (roundLimit ((distinctPaths paths).map Contender.start)))
    rw [roundLimit_start] at bound
    exact ⟨turns,bound,run.iff_eq⟩
  · intro path member nonempty
    have assigned : ((build paths reserved).alias? path).isSome :=
      alias?_isSome_iff.mpr ⟨member,nonempty⟩
    obtain ⟨name,known⟩ := Option.isSome_iff_exists.mp assigned
    obtain ⟨before,contender,after,parts,rfl,given⟩ := exists_settled_of_alias? known
    have listed : contender ∈ settled paths reserved := by simp [parts]
    have placed := (settled_invariant paths reserved).placed contender listed
    have spelled := (spellable _ member).wellSpelled_of_mem_candidates placed.current_mem
    have fewer := length_taken_lt parts
    obtain ⟨tries,bound,run,available,found⟩ := exists_tries spelled reserved
      ((number reserved [] before).map (·.2)).reverse
    rw [List.length_reverse] at bound
    refine ⟨before,contender,after,parts,rfl,tries+1,by omega,tries,run.iff_eq,available,?_⟩
    rw [known,given,found]

/-- A keyword that two paths come to rest at, with one of its numbers reserved. -/
theorem keyword_within_turns :
    let paths := ["k8s.io/api/core/v1","type","k8s.io/api/apps/v1","ty.pe"]
    (∀ path ∈ paths, Spellable path) ∧
      (∃ turns ≤ 7, ∀ count final,
        Rounds ["type2"] ((distinctPaths paths).map Contender.start) count final ↔
          count = turns ∧ final = settled paths ["type2"]) ∧
      ∃ (taken : List String) (contender : Contender) (tries : Nat), ∃ turns ≤ 6,
        contender.path = "type" ∧ Tries ["type2"] taken contender.current turns tries ∧
          numbered contender.current tries = "type4" := by
  intro paths
  have spellable : ∀ path ∈ paths, Spellable path := by decide +kernel
  have spare : spareCandidates (distinctPaths paths) = 6 := by decide +kernel
  have known : (build paths ["type2"]).alias? "type" = some "type4" := by decide +kernel
  obtain ⟨settles,searches⟩ := build_within_turns spellable ["type2"]
  rw [spare] at settles
  obtain ⟨before,contender,_,_,path,turns,bound,tries,run,_,given⟩ :=
    searches "type" (by decide) (by decide)
  rw [known,Option.some.injEq] at given
  have searched := (run turns tries).mpr ⟨rfl,rfl⟩
  exact ⟨spellable,settles,_,contender,tries,turns,bound,path,searched,given.symm⟩

end InformerGen.AliasTable
