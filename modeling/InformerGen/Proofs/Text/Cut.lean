import InformerGen.Text.Cut
import Mathlib.Data.List.Infix

/-! Where a text is cut: at the first place where the needle stands. What stands before that place
decides on it, so the cut is made there whatever else may follow the needle. -/
namespace InformerGen.Text

variable {needle text before after : List Char} {mark : Char}

/-- The needle stands in the text between the two parts, and it stands nowhere before. -/
structure FirstAt (needle text before after : List Char) : Prop where
  parts : text = before ++ needle ++ after
  first : ∀ earlier later, text = earlier ++ needle ++ later → before.length ≤ earlier.length

theorem isPrefixOf?_eq_none_iff : needle.isPrefixOf? text = none ↔ ¬needle <+: text := by
  rw [Option.eq_none_iff_forall_ne_some]
  simp only [ne_eq,List.isPrefixOf?_eq_some_iff_append_eq]
  exact not_exists.symm

theorem cut_eq_none_iff : cut needle text = none ↔ ¬needle <:+: text := by
  induction text with
  | nil => cases needle <;> simp [cut]
  | cons c rest ih =>
    rw [List.infix_cons_iff,not_or,← isPrefixOf?_eq_none_iff,← ih,cut]
    cases needle.isPrefixOf? (c::rest) <;> simp

theorem firstAt_of_cut (found : cut needle text = some (before,after)) :
    FirstAt needle text before after := by
  refine ⟨cut_eq_some found,?_⟩
  induction text generalizing before with
  | nil =>
    have parts := congrArg List.length (cut_eq_some found)
    simp only [List.length_nil,List.length_append] at parts
    omega
  | cons c rest ih =>
    simp only [cut] at found
    split at found
    next here =>
      obtain ⟨rfl,rfl⟩ := Prod.mk.inj (Option.some.inj found)
      exact fun earlier _ _ => Nat.zero_le earlier.length
    next absent =>
      obtain ⟨⟨inner,tail⟩,inside,same⟩ := Option.map_eq_some_iff.mp found
      obtain ⟨rfl,rfl⟩ := Prod.mk.inj same
      rintro (_ | ⟨d,more⟩) later parts
      · exact absurd ⟨later,parts.symm⟩ (isPrefixOf?_eq_none_iff.mp absent)
      · exact Nat.succ_le_succ (ih inside more later (List.cons.inj parts).2)

namespace FirstAt

theorem unique {otherBefore otherAfter : List Char} (found : FirstAt needle text before after)
    (other : FirstAt needle text otherBefore otherAfter) :
    before = otherBefore ∧ after = otherAfter := by
  have size : before.length = otherBefore.length :=
    Nat.le_antisymm (found.first _ _ other.parts) (other.first _ _ found.parts)
  have parts := found.parts.symm.trans other.parts
  rw [List.append_assoc,List.append_assoc] at parts
  obtain ⟨same,rest⟩ := List.append_inj parts size
  exact ⟨same,List.append_cancel_left rest⟩

theorem append (found : FirstAt needle text before after) (other : List Char) :
    FirstAt needle (before ++ needle ++ other) before other := by
  refine ⟨rfl,fun earlier later parts => ?_⟩
  by_contra shorter
  have within : earlier ++ needle <+: before ++ needle ++ other := ⟨later,parts.symm⟩
  have inside : earlier ++ needle <+: before ++ needle := by
    apply List.prefix_of_prefix_length_le within (List.prefix_append _ _)
    rw [List.length_append,List.length_append]
    omega
  obtain ⟨rest,same⟩ := inside
  have text := found.parts
  rw [← same,List.append_assoc _ rest] at text
  exact shorter (found.first _ _ text)

theorem notInfix (found : FirstAt needle text before after) (filled : needle ≠ []) :
    ¬needle <:+: before := by
  rintro ⟨earlier,rest,rfl⟩
  have parts := found.parts
  rw [List.append_assoc (earlier ++ needle),List.append_assoc (earlier ++ needle)] at parts
  have bound := found.first earlier _ parts
  have long := List.length_pos_iff.mpr filled
  simp only [List.length_append] at bound
  omega

end FirstAt

theorem exists_of_apart {c d : Char} {more earlier later : List Char} (absent : ¬[c,d] <:+: text)
    (apart : text.getLast? ≠ some c ∨ more.head? ≠ some d)
    (parts : text ++ more = earlier ++ [c,d] ++ later) :
    ∃ rest, earlier = text ++ rest ∧ more = rest ++ [c,d] ++ later := by
  rw [List.append_assoc] at parts
  rcases List.append_eq_append_iff.mp parts with ⟨rest,beyond,others⟩ | ⟨rest,within,others⟩
  · refine ⟨rest,beyond,?_⟩
    rw [others,List.append_assoc]
  · cases rest with
    | nil =>
      refine ⟨[],?_,?_⟩
      · simpa using within.symm
      · simpa using others.symm
    | cons first rest =>
      obtain ⟨rfl,behind⟩ := List.cons.inj others
      cases rest with
      | nil =>
        -- The pair stands on the seam.
        have ends : text.getLast? = some c := by simp [within]
        have begins : more.head? = some d := congrArg List.head? behind.symm
        rw [ends,begins] at apart
        simp at apart
      | cons second rest =>
        obtain ⟨rfl,-⟩ := List.cons.inj behind
        refine absurd ⟨earlier,rest,?_⟩ absent
        simp [within]

/-- A pair of characters that stands in neither of two texts stands in both together only if the one
ends the first text and the other begins the second. -/
theorem notInfix_append {c d : Char} {more : List Char} (absent : ¬[c,d] <:+: text)
    (alsoAbsent : ¬[c,d] <:+: more) (apart : text.getLast? ≠ some c ∨ more.head? ≠ some d) :
    ¬[c,d] <:+: text ++ more := by
  intro inside
  obtain ⟨earlier,later,parts⟩ := inside
  obtain ⟨rest,-,others⟩ := exists_of_apart absent apart parts.symm
  exact alsoAbsent ⟨rest,later,others.symm⟩

theorem FirstAt.behind {c d : Char} {more : List Char} (found : FirstAt [c,d] more before after)
    (absent : ¬[c,d] <:+: text) (apart : text.getLast? ≠ some c ∨ more.head? ≠ some d) :
    FirstAt [c,d] (text ++ more) (text ++ before) after := by
  refine ⟨?_,fun earlier later parts => ?_⟩
  · rw [found.parts]
    simp only [List.append_assoc]
  · obtain ⟨rest,rfl,others⟩ := exists_of_apart absent apart parts
    simpa using found.first rest later others

theorem cut_eq_some_iff : cut needle text = some (before,after) ↔ FirstAt needle text before after := by
  refine ⟨firstAt_of_cut,fun found => ?_⟩
  cases result : cut needle text with
  | none =>
    have absent := cut_eq_none_iff.mp result
    exact absurd ⟨before,after,found.parts.symm⟩ absent
  | some parts =>
    obtain ⟨rfl,rfl⟩ := found.unique (firstAt_of_cut result)
    rfl

theorem splitAtFirst_append (unmarked : mark ∉ before) (after : List Char) :
    splitAtFirst mark (before ++ mark::after) = some (before,after) := by
  refine cut_eq_some_iff.mpr ⟨?_,fun earlier later parts => ?_⟩
  · rw [List.append_assoc,List.singleton_append]
  · by_contra shorter
    have within : earlier ++ [mark] <+: before ++ mark::after := ⟨later,parts.symm⟩
    have inside : earlier ++ [mark] <+: before := by
      apply List.prefix_of_prefix_length_le within (List.prefix_append _ _)
      rw [List.length_append,List.length_singleton]
      omega
    exact unmarked (inside.subset (List.mem_append_right _ List.mem_cons_self))

theorem splitAtFirst_of_unmarked (unmarked : mark ∉ text) : splitAtFirst mark text = none := by
  rwa [splitAtFirst,cut_eq_none_iff,List.singleton_infix_iff]

theorem byteLength_append (first second : List Char) :
    byteLength (first ++ second) = byteLength first + byteLength second := by
  induction first with
  | nil => exact (Nat.zero_add _).symm
  | cons c rest ih => rw [List.cons_append,byteLength,byteLength,ih,Nat.add_assoc]

theorem utf8ByteSize_ofList (text : List Char) :
    (String.ofList text).utf8ByteSize = byteLength text := by
  induction text with
  | nil => rfl
  | cons c rest ih =>
    rw [String.ofList_cons,String.utf8ByteSize_append,String.utf8ByteSize_singleton,ih,byteLength]

end InformerGen.Text
