import InformerGen.Alias.Table
import InformerGen.Proofs.Alias.Candidates
import Mathlib.Data.List.Nodup
import Mathlib.Tactic.Push

/-! Numbers make a candidate into as many aliases as there is need for. Its numbered forms differ
from one another, from the keywords and from all candidates of the same path, so among enough of
them there is one that is free, and a path with a number bears none of its own candidates. -/
namespace InformerGen.Alias

theorem le_of_isDigit {c : Char} (digit : c.isDigit = true) : c.toNat ≤ '9'.toNat := by
  simp only [Char.isDigit,Bool.and_eq_true,decide_eq_true_eq] at digit
  exact UInt32.le_iff_toNat_le.mp digit.2

theorem continues_of_isDigit {c : Char} (digit : c.isDigit = true) :
    Identifier.continues c = true := by
  have low : c.toNat < 0x80 := Nat.lt_of_le_of_lt (le_of_isDigit digit) (by decide)
  simp [Identifier.continues,Text.isAlphanumeric,Text.isNumeral,low,digit]

theorem toList_numbered (candidate : String) {tries : Nat} (positive : 0 < tries) :
    (numbered candidate tries).toList = candidate.toList ++ Nat.toDigits 10 (tries+1) := by
  have nonzero : tries ≠ 0 := by omega
  simp [numbered,nonzero]

theorem isDigit_of_mem_toDigits {n : Nat} {c : Char} (member : c ∈ Nat.toDigits 10 n) :
    c.isDigit = true :=
  Nat.isDigit_of_mem_toDigits (by decide) (by decide) member

theorem numbered_succ_injective (candidate : String) :
    Function.Injective fun tries => numbered candidate (tries+1) := by
  intro first second same
  have spelling := congrArg String.toList same
  simp only [toList_numbered candidate (Nat.succ_pos _),List.append_cancel_left_eq] at spelling
  have value := congrArg (fun digits => Nat.ofDigitChars 10 digits 0) spelling
  simp only [Nat.ofDigitChars_ten_toDigits] at value
  omega

theorem wellSpelled_numbered {candidate : String}
    (spelled : Identifier.wellSpelled candidate.toList = true) (tries : Nat) :
    Identifier.wellSpelled (numbered candidate tries).toList = true := by
  rcases Nat.eq_zero_or_pos tries with rfl | positive
  · exact spelled
  · rw [toList_numbered candidate positive]
    cases start : candidate.toList with
    | nil => simp [start,Identifier.wellSpelled] at spelled
    | cons c rest =>
      rw [start,Identifier.wellSpelled,Bool.and_eq_true] at spelled
      rw [List.cons_append,Identifier.wellSpelled,List.all_append,spelled.1,spelled.2]
      simp only [Bool.true_and,List.all_eq_true]
      exact fun d member => continues_of_isDigit (isDigit_of_mem_toDigits member)

theorem isKeyword_numbered (candidate : String) {tries : Nat} (positive : 0 < tries) :
    Identifier.isKeyword (numbered candidate tries) = false := by
  have undigited :
      (Identifier.keywords.all fun word => word.toList.all fun c => !c.isDigit) = true := by decide
  obtain ⟨digit,member⟩ := List.exists_mem_of_ne_nil _ (Nat.toDigits_ne_nil (n := tries+1) (b := 10))
  rw [Identifier.isKeyword,← Bool.not_eq_true,List.contains_iff_mem]
  intro keyword
  have inside : digit ∈ (numbered candidate tries).toList := by
    rw [toList_numbered candidate positive]
    exact List.mem_append_right _ member
  have none := List.all_eq_true.mp (List.all_eq_true.mp undigited _ keyword) digit inside
  rw [isDigit_of_mem_toDigits member] at none
  cases none

theorem isIdentifier_numbered {candidate : String}
    (spelled : Identifier.wellSpelled candidate.toList = true) {tries : Nat}
    (positive : 0 < tries) : Identifier.isIdentifier (numbered candidate tries) = true := by
  rw [Identifier.isIdentifier,wellSpelled_numbered spelled,isKeyword_numbered candidate positive]
  rfl

/-- No numbered form of a candidate is a candidate of the same path. A longer candidate would have to
begin with the shorter one and end with it as well; then what is left over holds digits only and
stands at its beginning. -/
theorem numbered_not_mem_candidates {path candidate : String} (member : candidate ∈ candidates path)
    {tries : Nat} (positive : 0 < tries) : numbered candidate tries ∉ candidates path := by
  intro also
  have digits : Nat.toDigits 10 (tries+1) ≠ [] := Nat.toDigits_ne_nil
  have spelling := toList_numbered candidate positive
  rcases suffix_or_suffix member also with ⟨front,longer⟩ | shorter
  · rw [spelling] at longer
    have counted := congrArg (List.countP fun c => !c.isDigit) longer
    have none : (Nat.toDigits 10 (tries+1)).countP (fun c => !c.isDigit) = 0 := by
      rw [List.countP_eq_zero]
      intro c inside
      simp [isDigit_of_mem_toDigits inside]
    rw [List.countP_append,List.countP_append,none,Nat.add_comm,Nat.add_left_cancel_iff,
      List.countP_eq_zero] at counted
    obtain ⟨c,rest,start⟩ := List.exists_cons_of_ne_nil (candidate_ne_empty member)
    cases front with
    | nil => simp [digits] at longer
    | cons d tail =>
      rw [start,List.cons_append,List.cons_append,List.cons.injEq] at longer
      have digit : c.isDigit = true := by
        rw [← longer.1]
        simpa using counted d List.mem_cons_self
      have undigited := not_opensWithDigit member
      simp [opensWithDigit,start,digit] at undigited
  · have bound := shorter.length_le
    rw [spelling,List.length_append] at bound
    have := List.length_pos_iff.mpr digits
    omega

def Available (reserved taken : List String) (name : String) : Prop :=
  isBlocked reserved name = false ∧ name ∉ taken

theorem isFree_iff {reserved taken : List String} {name : String} :
    isFree reserved taken name = true ↔ Available reserved taken name := by
  simp [isFree,Available]

section Search

variable {reserved taken : List String} {candidate : String}

theorem search_eq_some_iff {tries : Nat} : search reserved taken candidate = some tries ↔
    tries ≤ tryLimit reserved taken ∧ Available reserved taken (numbered candidate tries) ∧
      ∀ earlier < tries, ¬Available reserved taken (numbered candidate earlier) := by
  simp only [search,List.find?_range_eq_some,List.mem_range,Nat.lt_succ_iff,isFree_iff,
    Bool.not_eq_true',← Bool.not_eq_true]
  exact and_left_comm

theorem search_eq_none_iff : search reserved taken candidate = none ↔
    ∀ tries ≤ tryLimit reserved taken, ¬Available reserved taken (numbered candidate tries) := by
  simp only [search,List.find?_range_eq_none,Nat.lt_succ_iff,isFree_iff,Bool.not_eq_true',
    ← Bool.not_eq_true]

theorem firstFree_of_search {tries : Nat} (found : search reserved taken candidate = some tries) :
    firstFree reserved taken candidate = numbered candidate tries := by
  rw [firstFree,found,Option.getD_some]

theorem firstFree_of_search_none (exhausted : search reserved taken candidate = none) :
    firstFree reserved taken candidate = numbered candidate (tryLimit reserved taken) := by
  rw [firstFree,exhausted,Option.getD_none]

end Search

/-- More forms than there are reserved and taken aliases cannot all be among these. -/
theorem exists_available {candidate : String}
    (spelled : Identifier.wellSpelled candidate.toList = true) (reserved taken : List String) :
    ∃ tries ≤ tryLimit reserved taken, Available reserved taken (numbered candidate tries) := by
  by_contra absent
  push Not at absent
  let forms := (List.range (tryLimit reserved taken)).map fun tries => numbered candidate (tries+1)
  have distinct : forms.Nodup :=
    List.Nodup.map (numbered_succ_injective candidate) List.nodup_range
  have inside : forms ⊆ reserved ++ taken := by
    intro form member
    obtain ⟨tries,listed,rfl⟩ := List.mem_map.mp member
    have refused := absent (tries+1) (List.mem_range.mp listed)
    have identifier := isIdentifier_numbered spelled (Nat.succ_pos tries)
    simpa [Available,isBlocked,identifier,imp_iff_not_or,or_comm] using refused
  have length := distinct.length_le_of_subset inside
  simp only [forms,List.length_map,List.length_range,List.length_append,tryLimit] at length
  omega

theorem exists_search {candidate : String}
    (spelled : Identifier.wellSpelled candidate.toList = true) (reserved taken : List String) :
    ∃ tries, search reserved taken candidate = some tries := by
  refine Option.ne_none_iff_exists'.mp fun exhausted => ?_
  obtain ⟨tries,within,free⟩ := exists_available spelled reserved taken
  exact search_eq_none_iff.mp exhausted tries within free

theorem exists_first_available {candidate : String}
    (spelled : Identifier.wellSpelled candidate.toList = true) (reserved taken : List String) :
    ∃ tries, firstFree reserved taken candidate = numbered candidate tries ∧
      Available reserved taken (numbered candidate tries) ∧
      ∀ earlier < tries, ¬Available reserved taken (numbered candidate earlier) := by
  obtain ⟨tries,found⟩ := exists_search spelled reserved taken
  exact ⟨tries,firstFree_of_search found,(search_eq_some_iff.mp found).2⟩

theorem firstFree_available {candidate : String}
    (spelled : Identifier.wellSpelled candidate.toList = true) (reserved taken : List String) :
    Available reserved taken (firstFree reserved taken candidate) := by
  obtain ⟨tries,same,free,_⟩ := exists_first_available spelled reserved taken
  rwa [same]

theorem firstFree_eq_self {reserved taken : List String} {candidate : String}
    (free : Available reserved taken candidate) : firstFree reserved taken candidate = candidate := by
  have found : search reserved taken candidate = some 0 :=
    search_eq_some_iff.mpr ⟨Nat.zero_le _,free,fun _ less => absurd less (Nat.not_lt_zero _)⟩
  exact firstFree_of_search found

theorem exists_number_of_not_available {reserved taken : List String} {candidate : String}
    (refused : ¬Available reserved taken candidate) :
    ∃ tries, 0 < tries ∧ firstFree reserved taken candidate = numbered candidate tries := by
  cases found : search reserved taken candidate with
  | none => exact ⟨_,Nat.succ_pos _,firstFree_of_search_none found⟩
  | some tries =>
    refine ⟨tries,Nat.pos_of_ne_zero ?_,firstFree_of_search found⟩
    rintro rfl
    exact refused (search_eq_some_iff.mp found).2.1

theorem map_path_number (reserved taken : List String) (contenders : List Contender) :
    (number reserved taken contenders).map (·.1) = contenders.map (·.path) := by
  induction contenders generalizing taken with
  | nil => rfl
  | cons contender rest ih => simp [number,ih]

theorem number_append (reserved taken : List String) (first second : List Contender) :
    number reserved taken (first ++ second) =
      number reserved taken first ++
        number reserved (((number reserved taken first).map (·.2)).reverse ++ taken) second := by
  induction first generalizing taken with
  | nil => rfl
  | cons contender rest ih => simp [number,ih]

theorem number_available {contenders : List Contender}
    (spelled : ∀ contender ∈ contenders,
      Identifier.wellSpelled contender.current.toList = true) (reserved taken : List String) :
    (∀ entry ∈ number reserved taken contenders, Available reserved taken entry.2) ∧
      ((number reserved taken contenders).map (·.2)).Nodup := by
  induction contenders generalizing taken with
  | nil => simp [number]
  | cons contender rest ih =>
    rw [List.forall_mem_cons] at spelled
    have first := firstFree_available spelled.1 reserved taken
    obtain ⟨others,distinct⟩ := ih spelled.2 (firstFree reserved taken contender.current::taken)
    rw [number]
    refine ⟨?_,?_⟩
    · rw [List.forall_mem_cons]
      refine ⟨first,fun entry member => ?_⟩
      obtain ⟨unblocked,fresh⟩ := others entry member
      exact ⟨unblocked,fun known => fresh (List.mem_cons_of_mem _ known)⟩
    · rw [List.map_cons,List.nodup_cons]
      refine ⟨fun member => ?_,distinct⟩
      obtain ⟨entry,listed,same⟩ := List.mem_map.mp member
      exact (others entry listed).2 (same ▸ List.mem_cons_self)

theorem exists_of_mem_number {reserved taken : List String} {contenders : List Contender}
    {entry : String × String} (member : entry ∈ number reserved taken contenders) :
    ∃ before contender after, contenders = before ++ contender::after ∧
      entry.1 = contender.path ∧
      entry.2 = firstFree reserved (((number reserved taken before).map (·.2)).reverse ++ taken)
        contender.current := by
  induction contenders generalizing taken with
  | nil => cases member
  | cons contender rest ih =>
    rw [number] at member
    rcases List.mem_cons.mp member with rfl | later
    · exact ⟨[],contender,rest,rfl,rfl,rfl⟩
    · obtain ⟨before,other,after,rfl,path,given⟩ := ih later
      refine ⟨contender::before,other,after,rfl,path,?_⟩
      simpa [number] using given

end InformerGen.Alias
