import InformerGen.Proofs.Alias.Numbering
import InformerGen.Proofs.Alias.Levelling
import InformerGen.Proofs.OrderedMap

/-! What a table of aliases promises: an alias for each path, no two alike, all of them identifiers
that are not reserved, whatever the order of the paths. Numbers are given after the candidates are
settled, in the order of the paths, so a path may lose its candidate to a number of another one;
that is the only way for a path with a candidate of its own to get a number. -/
namespace InformerGen.AliasTable

open Alias

variable {paths reserved : List String} {path name : String}

theorem mem_distinctPaths : path ∈ distinctPaths paths ↔ path ∈ paths ∧ path ≠ "" := by
  simp [distinctPaths,OrderedSet.mem_keys_ofTexts]

theorem distinctPaths_ascending (paths : List String) : (distinctPaths paths).Pairwise (· < ·) :=
  OrderedMap.keys_ascending _

theorem distinctPaths_congr {others : List String} (same : ∀ path, path ∈ others ↔ path ∈ paths) :
    distinctPaths others = distinctPaths paths := by
  rw [distinctPaths,distinctPaths]
  congr 1
  exact OrderedSet.ofTexts_congr fun text => by simp [same]

def settled (paths reserved : List String) : List Contender :=
  levelled reserved (distinctPaths paths)

theorem settled_invariant (paths reserved : List String) :
    LevelInvariant reserved (distinctPaths paths) (settled paths reserved) :=
  levelInvariant_levelled reserved (OrderedMap.keys_nodup _)

theorem settled_paths (paths reserved : List String) :
    (settled paths reserved).map Contender.path = distinctPaths paths :=
  (settled_invariant paths reserved).paths_eq

theorem settled_nodup (paths reserved : List String) :
    ((settled paths reserved).map Contender.path).Nodup := by
  rw [settled_paths]
  exact OrderedMap.keys_nodup _

theorem path_of_mem_settled {contender : Contender} (member : contender ∈ settled paths reserved) :
    contender.path ∈ paths ∧ contender.path ≠ "" := by
  rw [← mem_distinctPaths,← settled_paths paths reserved]
  exact List.mem_map_of_mem member

theorem settled_unique {first second : Contender} (left : first ∈ settled paths reserved)
    (right : second ∈ settled paths reserved) (same : first.path = second.path) : first = second :=
  List.inj_on_of_nodup_map (settled_nodup paths reserved) left right same

theorem alias?_isSome_iff :
    ((build paths reserved).alias? path).isSome ↔ path ∈ paths ∧ path ≠ "" := by
  rw [build,alias?,OrderedMap.isSome_get?_ofList,map_path_number,← settled,settled_paths,
    mem_distinctPaths]

theorem alias?_eq_some_iff :
    (build paths reserved).alias? path = some name ↔
      (path,name) ∈ number reserved [] (settled paths reserved) := by
  rw [build,alias?,OrderedMap.get?_ofList_eq_some_iff]
  · rfl
  · rw [map_path_number]
    exact settled_nodup paths reserved

theorem build_congr {others : List String} (same : ∀ path, path ∈ others ↔ path ∈ paths)
    (reserved : List String) : build others reserved = build paths reserved := by
  rw [build,build,distinctPaths_congr same]

theorem settled_available (spellable : ∀ path ∈ paths, Spellable path) (reserved : List String) :
    (∀ entry ∈ number reserved [] (settled paths reserved), Available reserved [] entry.2) ∧
      ((number reserved [] (settled paths reserved)).map (·.2)).Nodup := by
  apply number_available
  intro contender member
  apply (spellable contender.path (path_of_mem_settled member).1).wellSpelled_of_mem_candidates
  exact ((settled_invariant paths reserved).placed contender member).current_mem

/-- A table of spellable paths has an alias for each path and for nothing else. No two paths share
one, each is an identifier that is neither a keyword nor reserved, and neither the order of the
paths nor how often they are given matters. -/
theorem build_sound (spellable : ∀ path ∈ paths, Spellable path) (reserved : List String) :
    (∀ path, ((build paths reserved).alias? path).isSome ↔ path ∈ paths ∧ path ≠ "") ∧
    (∀ first second name, (build paths reserved).alias? first = some name →
      (build paths reserved).alias? second = some name → first = second) ∧
    (∀ path name, (build paths reserved).alias? path = some name →
      Identifier.isIdentifier name = true ∧ Identifier.isKeyword name = false ∧
        name ∉ reserved) ∧
    ∀ others, (∀ path, path ∈ others ↔ path ∈ paths) →
      build others reserved = build paths reserved := by
  obtain ⟨available,distinct⟩ := settled_available spellable reserved
  refine ⟨fun path => alias?_isSome_iff,?_,?_,fun others same => build_congr same reserved⟩
  · intro first second name left right
    have same := List.inj_on_of_nodup_map distinct (alias?_eq_some_iff.mp left)
      (alias?_eq_some_iff.mp right) rfl
    exact congrArg Prod.fst same
  · intro path name known
    obtain ⟨unblocked,_⟩ := available _ (alias?_eq_some_iff.mp known)
    rw [isBlocked,Bool.or_eq_false_iff,Bool.not_eq_false'] at unblocked
    obtain ⟨unreserved,identifier⟩ := unblocked
    refine ⟨identifier,?_,by simpa using unreserved⟩
    rw [Identifier.isIdentifier,Bool.and_eq_true] at identifier
    simpa using identifier.2

theorem versions_and_keyword_sound :
    let paths := ["k8s.io/api/core/v1","example.com/type","k8s.io/api/apps/v1"]
    (∀ path ∈ paths, Spellable path) ∧
      (build paths ["corev1"]).alias? "k8s.io/api/core/v1" = some "apicorev1" ∧
      (Identifier.isIdentifier "apicorev1" = true ∧
        Identifier.isKeyword "apicorev1" = false ∧ "apicorev1" ∉ ["corev1"]) ∧
      build (paths.reverse ++ paths) ["corev1"] = build paths ["corev1"] := by
  intro paths
  have spellable : ∀ path ∈ paths, Spellable path := by decide +kernel
  have known : (build paths ["corev1"]).alias? "k8s.io/api/core/v1" = some "apicorev1" := by
    decide +kernel
  obtain ⟨_,_,lawful,unordered⟩ := build_sound spellable ["corev1"]
  exact ⟨spellable,known,lawful _ _ known,unordered _ (by simp)⟩

/-- The table gives a path the first free form of the candidate at which it came to rest, after the
paths before it have theirs. -/
theorem exists_settled_of_alias? (known : (build paths reserved).alias? path = some name) :
    ∃ before contender after, settled paths reserved = before ++ contender::after ∧
      contender.path = path ∧
      name = firstFree reserved ((number reserved [] before).map (·.2)).reverse
        contender.current := by
  obtain ⟨before,contender,after,parts,same,given⟩ :=
    exists_of_mem_number (alias?_eq_some_iff.mp known)
  exact ⟨before,contender,after,parts,same.symm,by simpa using given⟩

theorem mem_taken_iff {before after : List Contender} {contender : Contender}
    (parts : settled paths reserved = before ++ contender::after) :
    name ∈ (number reserved [] before).map (·.2) ↔
      ∃ earlier < contender.path, (build paths reserved).alias? earlier = some name := by
  have ascending := distinctPaths_ascending paths
  rw [← settled_paths paths reserved,parts,List.map_append,List.map_cons] at ascending
  obtain ⟨_,later,sooner⟩ := List.pairwise_append.mp ascending
  have given := number_append reserved [] before (contender::after)
  rw [← parts] at given
  constructor
  · intro member
    obtain ⟨⟨earlier,_⟩,listed,rfl⟩ := List.mem_map.mp member
    refine ⟨earlier,?_,?_⟩
    · apply sooner _ _ _ List.mem_cons_self
      rw [← map_path_number reserved [] before]
      exact List.mem_map_of_mem listed
    · rw [alias?_eq_some_iff,given]
      exact List.mem_append_left _ listed
  · rintro ⟨earlier,less,known⟩
    rw [alias?_eq_some_iff,given] at known
    rcases List.mem_append.mp known with listed | listed
    · exact List.mem_map_of_mem listed
    · exfalso
      have inside := List.mem_map_of_mem (f := (·.1)) listed
      rw [map_path_number,List.map_cons] at inside
      rcases List.mem_cons.mp inside with same | after
      · exact String.lt_irrefl _ (same ▸ less)
      · exact String.lt_irrefl _
          (String.lt_trans less ((List.pairwise_cons.mp later).1 earlier after))

/-- A candidate that its path need share with nobody: it may be given, and no other of the paths
has it among its candidates. -/
def Uncontested (paths reserved : List String) (path candidate : String) : Prop :=
  isBlocked reserved candidate = false ∧
    ∀ other ∈ paths, other ≠ "" → other ≠ path → candidate ∉ candidates other

/-- The candidate at which a path came to rest has become the numbered alias of an earlier path. -/
def Forestalled (paths reserved : List String) (path : String) : Prop :=
  ∃ contender ∈ settled paths reserved, contender.path = path ∧
    ∃ earlier < path, (build paths reserved).alias? earlier = some contender.current ∧
      contender.current ∉ candidates earlier

theorem not_mustMove_of_uncontested {contender : Contender} {candidate : String}
    (member : contender ∈ settled paths reserved)
    (suggested : candidate ∈ candidates contender.path)
    (free : Uncontested paths reserved contender.path candidate) :
    mustMove reserved (settled paths reserved) contender = false := by
  have invariant := settled_invariant paths reserved
  have placed := invariant.placed contender member
  have met {other : Contender} (otherMember : other ∈ settled paths reserved)
      (apart : other.path ≠ contender.path) {level : Nat}
      (found : other.candidates[level]? = some candidate) : False := by
    obtain ⟨given,nonempty⟩ := path_of_mem_settled otherMember
    apply free.2 other.path given nonempty apart
    rw [← (invariant.placed other otherMember).candidates_eq]
    exact List.mem_of_getElem? found
  rw [← Bool.not_eq_true]
  intro moves
  have last := last_of_mustMove member moves
  rw [← placed.candidates_eq] at suggested
  obtain ⟨level,found⟩ := List.mem_iff_getElem?.mp suggested
  have bound := (List.getElem?_eq_some_iff.mp found).1
  rcases Nat.lt_or_ge level contender.level with passed | reached
  · rcases invariant.passed contender member level passed candidate found with
      blocked | ⟨other,otherMember,apart,_,_,same⟩
    · rw [free.1] at blocked
      cases blocked
    · exact met otherMember apart same
  · obtain rfl : level = contender.level := by omega
    rw [placed.getElem?_level,Option.some.injEq] at found
    rcases invariant.contested (OrderedMap.keys_nodup _) member moves with
      blocked | ⟨other,otherMember,apart,same⟩
    · rw [found,free.1] at blocked
      cases blocked
    · exact met otherMember apart (found ▸ same)

theorem current_ne_of_not_mustMove {first second : Contender}
    (left : first ∈ settled paths reserved) (right : second ∈ settled paths reserved)
    (stays : mustMove reserved (settled paths reserved) first = false)
    (apart : second.path ≠ first.path) : second.current ≠ first.current := by
  intro same
  have shared := (isShared_iff (settled_nodup paths reserved) left).mpr ⟨second,right,apart,same⟩
  rw [mustMove,shared,Bool.or_true] at stays
  cases stays

theorem not_mem_candidates_of_taken {contender : Contender} {other : String}
    (member : contender ∈ settled paths reserved)
    (stays : mustMove reserved (settled paths reserved) contender = false)
    (apart : other ≠ contender.path)
    (known : (build paths reserved).alias? other = some contender.current) :
    contender.current ∉ candidates other := by
  obtain ⟨before,holder,after,parts,rfl,given⟩ := exists_settled_of_alias? known
  have listed : holder ∈ settled paths reserved := by simp [parts]
  have different := current_ne_of_not_mustMove member listed stays apart
  by_cases free : Available reserved ((number reserved [] before).map (·.2)).reverse holder.current
  · rw [firstFree_eq_self free] at given
    exact absurd given.symm different
  · obtain ⟨tries,positive,numbered⟩ := exists_number_of_not_available free
    rw [given,numbered]
    exact numbered_not_mem_candidates
      ((settled_invariant paths reserved).placed holder listed).current_mem positive

theorem alias_not_mem_candidates_iff {contender : Contender}
    (member : contender ∈ settled paths reserved)
    (stays : mustMove reserved (settled paths reserved) contender = false)
    (known : (build paths reserved).alias? contender.path = some name) :
    name ∉ candidates contender.path ↔ Forestalled paths reserved contender.path := by
  obtain ⟨before,same,after,parts,path,given⟩ := exists_settled_of_alias? known
  have listed : same ∈ settled paths reserved := by simp [parts]
  obtain rfl := settled_unique listed member path
  have inside := ((settled_invariant paths reserved).placed same member).current_mem
  have unblocked : isBlocked reserved same.current = false :=
    (Bool.or_eq_false_iff.mp stays).1
  by_cases taken : same.current ∈ (number reserved [] before).map (·.2)
  · obtain ⟨earlier,less,gone⟩ := (mem_taken_iff parts).mp taken
    have refused : ¬Available reserved ((number reserved [] before).map (·.2)).reverse
        same.current := fun free => free.2 (List.mem_reverse.mpr taken)
    obtain ⟨tries,positive,numbered⟩ := exists_number_of_not_available refused
    have apart : earlier ≠ same.path := fun equal => String.lt_irrefl _ (equal ▸ less)
    refine iff_of_true ?_ ⟨same,member,rfl,earlier,less,gone,
      not_mem_candidates_of_taken member stays apart gone⟩
    rw [given,numbered]
    exact numbered_not_mem_candidates inside positive
  · have free : Available reserved ((number reserved [] before).map (·.2)).reverse same.current :=
      ⟨unblocked,fun reversed => taken (List.mem_reverse.mp reversed)⟩
    rw [firstFree_eq_self free] at given
    refine iff_of_false (fun outside => outside (given ▸ inside)) ?_
    rintro ⟨other,otherMember,otherPath,earlier,less,gone,_⟩
    obtain rfl := settled_unique otherMember member otherPath
    exact taken ((mem_taken_iff parts).mpr ⟨earlier,less,gone⟩)

/-- When a number is the last resort of a path, every candidate of the path is contested. This fails
of a path with an uncontested candidate exactly if the path is forestalled. -/
theorem number_lastResort_iff (known : (build paths reserved).alias? path = some name) :
    (name ∉ candidates path → ∀ candidate ∈ candidates path,
      isBlocked reserved candidate = true ∨
        ∃ other ∈ paths, other ≠ "" ∧ other ≠ path ∧ candidate ∈ candidates other) ↔
    ((∃ candidate ∈ candidates path, Uncontested paths reserved path candidate) →
      ¬Forestalled paths reserved path) := by
  have contested (candidate : String) : ¬Uncontested paths reserved path candidate ↔
      isBlocked reserved candidate = true ∨
        ∃ other ∈ paths, other ≠ "" ∧ other ≠ path ∧ candidate ∈ candidates other := by
    simp [Uncontested,imp_iff_not_or]
  simp only [← contested]
  have forestalled : (∃ candidate ∈ candidates path, Uncontested paths reserved path candidate) →
      (name ∉ candidates path ↔ Forestalled paths reserved path) := by
    rintro ⟨candidate,suggested,free⟩
    obtain ⟨_,contender,_,parts,rfl,_⟩ := exists_settled_of_alias? known
    have member : contender ∈ settled paths reserved := by simp [parts]
    exact alias_not_mem_candidates_iff member
      (not_mustMove_of_uncontested member suggested free) known
  constructor
  · intro lastResort uncontested forestalledPath
    obtain ⟨candidate,suggested,free⟩ := uncontested
    have outside := (forestalled ⟨candidate,suggested,free⟩).mpr forestalledPath
    exact lastResort outside candidate suggested free
  · intro notForestalled outside candidate suggested free
    refine notForestalled ⟨candidate,suggested,free⟩ ?_
    exact (forestalled ⟨candidate,suggested,free⟩).mp outside

/-- The number of `v1` takes the candidate `v12` from a path that could still have moved on to
`wv12`. -/
theorem number_takes_free_candidate :
    (build ["v.1","v1","w/v12"] []).alias? "w/v12" = some "v122" ∧
      Forestalled ["v.1","v1","w/v12"] [] "w/v12" := by
  have known : (build ["v.1","v1","w/v12"] []).alias? "w/v12" = some "v122" := by decide +kernel
  refine ⟨known,?_⟩
  by_contra notForestalled
  have lastResort := (number_lastResort_iff known).mpr fun _ => notForestalled
  have contested := lastResort (by decide +kernel) "wv12" (by decide +kernel)
  revert contested
  decide +kernel

/-- Numbers are not the last resort of every path. -/
theorem not_lastResort : ¬∀ paths reserved : List String, (∀ path ∈ paths, Spellable path) →
    ∀ path name, (build paths reserved).alias? path = some name → name ∉ candidates path →
      ∀ candidate ∈ candidates path, isBlocked reserved candidate = true ∨
        ∃ other ∈ paths, other ≠ "" ∧ other ≠ path ∧ candidate ∈ candidates other := by
  intro lastResort
  have contested := lastResort ["v.1","v1","w/v12"] [] (by decide +kernel) "w/v12" "v122"
    (by decide +kernel) (by decide +kernel) "wv12" (by decide +kernel)
  revert contested
  decide +kernel

end InformerGen.AliasTable
