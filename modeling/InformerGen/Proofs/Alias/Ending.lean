import InformerGen.Proofs.Alias.Turns
import InformerGen.Proofs.Imports

/-! When the building of a table ends. The search for a number tries one form after the other, so it
goes on for ever unless one of them is available. It finds one exactly if the candidate at which the
path came to rest is spelled like an identifier, since digits mend no spelling. -/
namespace InformerGen.Alias

variable {reserved taken : List String} {candidate : String}

theorem opens_of_isDigit {c : Char} (digit : c.isDigit = true) : Identifier.opens c = false := by
  have none : ∀ point < 'A'.toNat, Identifier.opens (Char.ofNat point) = false := by decide
  have below : c.toNat < 'A'.toNat := Nat.lt_of_le_of_lt (le_of_isDigit digit) (by decide)
  rw [← Char.ofNat_toNat c]
  exact none c.toNat below

theorem wellSpelled_of_numbered {tries : Nat}
    (spelled : Identifier.wellSpelled (numbered candidate tries).toList = true) :
    Identifier.wellSpelled candidate.toList = true := by
  rcases Nat.eq_zero_or_pos tries with rfl | positive
  · exact spelled
  · rw [toList_numbered candidate positive] at spelled
    cases opened : candidate.toList with
    | nil =>
      obtain ⟨first,rest,digits⟩ := List.exists_cons_of_ne_nil
        (Nat.toDigits_ne_nil : Nat.toDigits 10 (tries+1) ≠ [])
      have digit : first.isDigit = true := isDigit_of_mem_toDigits (digits ▸ List.mem_cons_self)
      rw [opened,List.nil_append,digits,Identifier.wellSpelled,opens_of_isDigit digit] at spelled
      cases spelled
    | cons first rest =>
      rw [opened,List.cons_append,Identifier.wellSpelled,Bool.and_eq_true,List.all_append,
        Bool.and_eq_true] at spelled
      rw [Identifier.wellSpelled,Bool.and_eq_true]
      exact ⟨spelled.1,spelled.2.1⟩

theorem wellSpelled_of_available {tries : Nat}
    (free : Available reserved taken (numbered candidate tries)) :
    Identifier.wellSpelled candidate.toList = true := by
  have unblocked := free.1
  rw [isBlocked,Bool.or_eq_false_iff,Bool.not_eq_false',Identifier.isIdentifier,
    Bool.and_eq_true] at unblocked
  exact wellSpelled_of_numbered unblocked.2.1

theorem exists_search_iff : (∃ tries, search reserved taken candidate = some tries) ↔
    Identifier.wellSpelled candidate.toList = true := by
  refine ⟨fun ⟨tries,found⟩ => ?_,fun spelled => exists_search spelled reserved taken⟩
  exact wellSpelled_of_available (search_eq_some_iff.mp found).2.1

/-- The search comes to what the tries come to, one after the other and without a limit: to the same
end, or to none. -/
theorem search_eq_some_iff_tries {tries : Nat} :
    search reserved taken candidate = some tries ↔
      ∃ turns, Tries reserved taken candidate turns tries := by
  refine ⟨fun found => ⟨_,tries_of_search found⟩,fun ⟨turns,run⟩ => ?_⟩
  obtain ⟨other,found⟩ := exists_search_iff.mpr (wellSpelled_of_available run.done)
  obtain ⟨_,rfl⟩ := run.unique (tries_of_search found)
  exact found

theorem number?_of_wellSpelled {contenders : List Contender}
    (spelled : ∀ contender ∈ contenders, Identifier.wellSpelled contender.current.toList = true)
    (reserved taken : List String) :
    number? reserved taken contenders = some (number reserved taken contenders) := by
  induction contenders generalizing taken with
  | nil => rfl
  | cons contender rest ih =>
    obtain ⟨first,others⟩ := List.forall_mem_cons.mp spelled
    obtain ⟨tries,found⟩ := exists_search first reserved taken
    rw [number?,number,found,firstFree_of_search found]
    simp [ih others]

theorem wellSpelled_of_number? {contenders : List Contender} {entries : List (String × String)}
    (found : number? reserved taken contenders = some entries) :
    ∀ contender ∈ contenders, Identifier.wellSpelled contender.current.toList = true := by
  induction contenders generalizing taken entries with
  | nil => exact List.forall_mem_nil _
  | cons contender rest ih =>
    obtain ⟨tries,searched,later⟩ := Option.bind_eq_some_iff.mp found
    obtain ⟨_,numbers,_⟩ := Option.bind_eq_some_iff.mp later
    exact List.forall_mem_cons.mpr ⟨exists_search_iff.mp ⟨tries,searched⟩,ih numbers⟩

end InformerGen.Alias

namespace InformerGen.AliasTable

open Alias

variable {paths reserved : List String}

/-- Every search for a number finds a form that may still be given. -/
def Ends (paths reserved : List String) : Prop :=
  ∀ before contender after, settled paths reserved = before ++ contender::after →
    ∃ tries, Available reserved ((number reserved [] before).map (·.2))
      (numbered contender.current tries)

theorem ends_iff_wellSpelled : Ends paths reserved ↔
    ∀ contender ∈ settled paths reserved,
      Identifier.wellSpelled contender.current.toList = true := by
  constructor
  · intro ends contender member
    obtain ⟨before,after,parts⟩ := List.append_of_mem member
    obtain ⟨tries,free⟩ := ends before contender after parts
    exact wellSpelled_of_available free
  · intro spelled before contender after parts
    have member : contender ∈ settled paths reserved := by simp [parts]
    obtain ⟨tries,_,free⟩ := exists_available (spelled contender member) reserved
      ((number reserved [] before).map (·.2))
    exact ⟨tries,free⟩

theorem build?_eq_some_iff {table : AliasTable} :
    build? paths reserved = some table ↔ Ends paths reserved ∧ build paths reserved = table := by
  rw [ends_iff_wellSpelled]
  constructor
  · intro built
    obtain ⟨entries,numbers,same⟩ := Option.bind_eq_some_iff.mp built
    have spelled := wellSpelled_of_number? numbers
    have given := (number?_of_wellSpelled spelled reserved []).symm.trans numbers
    cases given
    exact ⟨spelled,Option.some.inj same⟩
  · rintro ⟨spelled,rfl⟩
    exact Option.bind_eq_some_iff.mpr ⟨_,number?_of_wellSpelled spelled _ _,rfl⟩

theorem ends_of_spellable (spellable : ∀ path ∈ paths, Spellable path) (reserved : List String) :
    Ends paths reserved := by
  rw [ends_iff_wellSpelled]
  intro contender member
  have known := path_of_mem_settled member
  have placed := (settled_invariant paths reserved).placed contender member
  exact (spellable contender.path known.1).wellSpelled_of_mem_candidates placed.current_mem

def pairs (table : AliasTable) : Set (String × String) :=
  {entry | table.alias? entry.1 = some entry.2}

theorem Ends.oneToOne (ends : Ends paths reserved) :
    ImportTracker.OneToOne (build paths reserved).pairs := by
  have spelled := ends_iff_wellSpelled.mp ends
  have distinct := (number_available spelled reserved []).2
  rintro ⟨path,name⟩ known ⟨other,otherName⟩ otherKnown
  change (build paths reserved).alias? path = some name at known
  change (build paths reserved).alias? other = some otherName at otherKnown
  constructor
  · intro same
    change path = other at same
    rw [same,otherKnown] at known
    exact (Option.some.inj known).symm
  · intro same
    have listed := alias?_eq_some_iff.mp known
    have otherListed := alias?_eq_some_iff.mp otherKnown
    exact congrArg Prod.fst (List.inj_on_of_nodup_map distinct listed otherListed same)

end InformerGen.AliasTable
