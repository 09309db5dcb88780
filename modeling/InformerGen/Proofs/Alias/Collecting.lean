import InformerGen.Proofs.Alias.Candidates

/-! The candidates of a path as they are collected: join after join, from the last segment alone up to
all segments, those that open with a digit passed over, and those that have been found before. No
segment is empty, so each join is longer than all joins before it and ends in them. Hence none has been
found before, and the candidates are all the joins that do not open with a digit, shortest first. -/
namespace InformerGen.Alias

variable {word : String} {words rest : List String}

/-- One turn of the collection: a join is passed over that opens with a digit or has been found
before. -/
def considered (found : List String) (join : String) : List String :=
  if opensWithDigit join || found.contains join then found else found ++ [join]

/-- What has been found when the joins of the last words have had their turns, up to that of all. -/
def collected : List String → List String
  | [] => []
  | word::rest => considered (collected rest) (String.join (word::rest))

/-- The check for what has been found before does what erasing repetitions in the end does. -/
theorem considered_eraseDups (joins : List String) (join : String) :
    considered (joins.filter fun join => !opensWithDigit join).eraseDups join =
      ((joins ++ [join]).filter fun join => !opensWithDigit join).eraseDups := by
  rw [List.filter_append]
  generalize joins.filter (fun join => !opensWithDigit join) = found
  cases opens : opensWithDigit join with
  | true => simp [considered,opens]
  | false =>
    by_cases repeated : join ∈ found <;>
      simp [considered,opens,repeated,List.eraseDups_append,List.removeAll,List.eraseDups_cons]

theorem collected_eq_eraseDups (words : List String) :
    collected words = ((suffixJoins words).filter fun join => !opensWithDigit join).eraseDups := by
  induction words with
  | nil => rfl
  | cons word rest ih => rw [collected,ih,considered_eraseDups,suffixJoins]

theorem candidates_eq_collected (path : String) : candidates path =
    if collected (segments path) = [] then [fallback] else collected (segments path) := by
  rw [candidates,← collected_eq_eraseDups]
  simp only [List.isEmpty_iff]

def Lengthens (shorter longer : String) : Prop :=
  shorter.length < longer.length ∧ shorter.toList <:+ longer.toList

theorem lengthens_join (filled : word ≠ "") {tail : List String} (inside : tail <:+ rest) :
    Lengthens (String.join tail) (String.join (word::rest)) := by
  have within := (toList_join_suffix inside).length_le
  have positive : word.length ≠ 0 := fun none => filled (String.length_eq_zero_iff.mp none)
  rw [String.length_toList,String.length_toList] at within
  refine ⟨?_,toList_join_suffix (inside.trans (List.suffix_cons word rest))⟩
  rw [String.join_cons,String.length_append]
  omega

theorem suffixJoins_pairwise (filled : ∀ word ∈ words, word ≠ "") :
    (suffixJoins words).Pairwise Lengthens := by
  induction words with
  | nil => exact .nil
  | cons word rest ih =>
    obtain ⟨first,others⟩ := List.forall_mem_cons.mp filled
    rw [suffixJoins,List.pairwise_append]
    refine ⟨ih others,List.pairwise_singleton _ _,?_⟩
    intro join member whole only
    obtain ⟨tail,_,inside,rfl⟩ := mem_suffixJoins.mp member
    rw [List.mem_singleton.mp only]
    exact lengthens_join first inside

theorem suffixJoins_eq (words : List String) : suffixJoins words =
    (List.range words.length).reverse.map fun start => String.join (words.drop start) := by
  induction words with
  | nil => rfl
  | cons word rest ih =>
    rw [suffixJoins,ih,List.length_cons,List.range_succ_eq_map,List.reverse_cons,List.map_append,
      ← List.map_reverse,List.map_map]
    rfl

theorem considered_of_fresh {found : List String} {join : String} (fresh : join ∉ found) :
    considered found join = found ++ [join].filter fun join => !opensWithDigit join := by
  cases opens : opensWithDigit join <;> simp [considered,fresh,opens]

theorem mem_suffixJoins_of_mem_collected {join : String} (member : join ∈ collected words) :
    join ∈ suffixJoins words := by
  rw [collected_eq_eraseDups,List.mem_eraseDups] at member
  exact (List.mem_filter.mp member).1

theorem join_notMem_collected (filled : word ≠ "") :
    String.join (word::rest) ∉ collected rest := by
  intro member
  obtain ⟨tail,_,inside,same⟩ := mem_suffixJoins.mp (mem_suffixJoins_of_mem_collected member)
  have longer := (lengthens_join filled inside).1
  rw [same] at longer
  exact Nat.lt_irrefl _ longer

theorem collected_eq (filled : ∀ word ∈ words, word ≠ "") :
    collected words = (suffixJoins words).filter fun join => !opensWithDigit join := by
  induction words with
  | nil => rfl
  | cons word rest ih =>
    obtain ⟨first,others⟩ := List.forall_mem_cons.mp filled
    rw [collected,considered_of_fresh (join_notMem_collected first),ih others,suffixJoins,
      List.filter_append]

/-- The joins of the last segments of a path that do not open with a digit, from each segment on and
beginning with the last one. -/
def suggested (path : String) : List String :=
  ((List.range (segments path).length).reverse.map fun start =>
    String.join ((segments path).drop start)).filter fun join => !opensWithDigit join

/-- Texts for a path that do not open with a digit, each longer than those before it and ending in them:
the joins that the path suggests, or the alias for all paths that suggest none. -/
structure Graded (path : String) (listed : List String) : Prop where
  nonempty : listed ≠ []
  filled : ∀ candidate ∈ listed, candidate ≠ ""
  lengthening : listed.Pairwise Lengthens
  undigited : ∀ candidate ∈ listed, ∀ c ∈ candidate.toList.head?, c.isDigit = false
  joined : listed = if suggested path = [] then [fallback] else suggested path

theorem segments_filled (path : String) : ∀ segment ∈ segments path, segment ≠ "" :=
  fun _ member => (mem_segments member).1

theorem suggested_eq (path : String) : suggested path = collected (segments path) := by
  rw [suggested,← suffixJoins_eq,collected_eq (segments_filled path)]

theorem graded_candidates (path : String) : Graded path (candidates path) where
  nonempty := candidates_ne_nil path
  filled candidate member empty := candidate_ne_empty member (by rw [empty]; rfl)
  lengthening := by
    rw [candidates_eq_collected]
    split
    · exact List.pairwise_singleton _ _
    · rw [collected_eq (segments_filled path)]
      exact (suffixJoins_pairwise (segments_filled path)).filter _
  undigited candidate member c head := by
    have plain := not_opensWithDigit member
    obtain ⟨rest,spelling⟩ := List.head?_eq_some_iff.mp head
    simpa [opensWithDigit,spelling] using plain
  joined := by rw [candidates_eq_collected,suggested_eq]

/-- The candidates of every path are well formed, and they are what the collection finds, in which no
join is passed over because it has been found before. -/
theorem candidates_graded_unrepeated (path : String) :
    Graded path (candidates path) ∧
    candidates path =
      (if collected (segments path) = [] then [fallback] else collected (segments path)) ∧
    ∀ start, String.join ((segments path).drop start) ∉ collected ((segments path).drop (start+1)) := by
  refine ⟨graded_candidates path,candidates_eq_collected path,fun start => ?_⟩
  cases turn : (segments path).drop start with
  | nil =>
    -- Behind the last segment there is no turn, and nothing has been found.
    have ended : (segments path).drop (start+1) = [] := by
      rw [← List.tail_drop,turn,List.tail_nil]
    rw [ended]
    exact List.not_mem_nil
  | cons segment rest =>
    have later : (segments path).drop (start+1) = rest := by
      rw [← List.tail_drop,turn,List.tail_cons]
    rw [later]
    apply join_notMem_collected
    apply segments_filled path
    exact List.mem_of_mem_drop (turn ▸ List.mem_cons_self)

example : candidates "go.d/2b/~/c-d" = ["cd","god2bcd"] := by decide

end InformerGen.Alias
