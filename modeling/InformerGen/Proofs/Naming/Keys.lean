import InformerGen.Naming.Namer
import InformerGen.Proofs.OrderedMap
import InformerGen.Proofs.PackageName

/-! What the key of a naming exception may be taken for. It has a dot, and the plural of an identifier
has none, so it is never a plural. But a name that is doubled is a name again, and the key is then the
qualified name of another type in the same package. -/
namespace InformerGen

namespace Text

theorem append_mark_inj {mark : Char} {piece last : String} (unmarked : mark ∉ piece.toList)
    (lastUnmarked : mark ∉ last.toList) {text other : String} :
    text ++ String.singleton mark ++ piece = other ++ String.singleton mark ++ last ↔
      text = other ∧ piece = last := by
  constructor
  · intro same
    have pieces : piece = last := by
      rw [← lastPiece_append unmarked text,same,lastPiece_append lastUnmarked]
    subst pieces
    rw [String.append_left_inj,String.append_left_inj] at same
    exact ⟨same,rfl⟩
  · rintro ⟨rfl,rfl⟩
    rfl

theorem upperRuns_high : upperRuns.all (fun run => '.'.toNat < run.target) = true := by
  decide +kernel

theorem upperSpecials_high :
    upperSpecials.all (fun entry => entry.2.all ('.'.toNat < ·)) = true := rfl

theorem high_of_mapCase {point image : Nat} (high : 0x80 ≤ point)
    (member : image ∈ mapCase upperSpecials upperRuns point) : '.'.toNat < image := by
  unfold mapCase at member
  cases special : upperSpecials.lookup point with
  | some images =>
    rw [special,Option.getD_some] at member
    obtain ⟨before,after,table,_⟩ := List.lookup_eq_some_iff.mp special
    have listed : (point,images) ∈ upperSpecials := by simp [table]
    have entry := List.all_eq_true.mp upperSpecials_high _ listed
    exact of_decide_eq_true (List.all_eq_true.mp entry image member)
  | none =>
    rw [special,Option.getD_none,List.mem_singleton] at member
    subst member
    cases found : upperRuns.findSome? (·.image? point) with
    | none => exact Nat.lt_of_lt_of_le (by decide) high
    | some image =>
      obtain ⟨run,listed,reached⟩ := List.exists_of_findSome?_eq_some found
      obtain ⟨_,_,_,rfl⟩ := CaseRun.image?_eq_some_iff.mp reached
      have start := of_decide_eq_true (List.all_eq_true.mp upperRuns_high run listed)
      exact Nat.lt_add_right _ start

theorem ofNat_ne_dot {point : Nat} (high : '.'.toNat < point) : Char.ofNat point ≠ '.' := by
  intro dot
  by_cases valid : point.isValidChar
  · rw [Char.ofNat,dif_pos valid] at dot
    have same : point = '.'.toNat := congrArg Char.toNat dot
    omega
  · rw [Char.ofNat,dif_neg valid] at dot
    cases dot

theorem toUpper_ne_dot {c : Char} (plain : c ≠ '.') (low : c.toNat < 0x80) : c.toUpper ≠ '.' := by
  revert plain
  exact of_low c low (by decide)

theorem dot_notMem_upperChar {c : Char} (plain : c ≠ '.') : '.' ∉ upperChar c := by
  unfold upperChar
  split
  next low =>
    rw [List.mem_singleton]
    exact Ne.symm (toUpper_ne_dot plain low)
  next high =>
    intro member
    obtain ⟨image,mapped,dot⟩ := List.mem_map.mp member
    exact ofNat_ne_dot (high_of_mapCase (Nat.le_of_not_lt high) mapped) dot

theorem dot_notMem_capitalize {text : String} (dotless : '.' ∉ text.toList) :
    '.' ∉ (capitalize text).toList := by
  unfold capitalize
  cases chars : text.toList with
  | nil => exact List.not_mem_nil
  | cons c rest =>
    rw [chars,List.mem_cons,not_or] at dotless
    rw [String.toList_ofList,List.mem_append,not_or]
    exact ⟨dot_notMem_upperChar (Ne.symm dotless.1),dotless.2⟩

end Text

namespace Naming

theorem dot_notMem_pluralEnding (beforeLast last : Char) :
    '.' ∉ (pluralEnding beforeLast last).2.toList := by
  unfold pluralEnding
  split_ifs <;> decide

theorem dot_notMem_pluralize {singular : String} (dotless : '.' ∉ singular.toList) :
    '.' ∉ (pluralize singular).toList := by
  unfold pluralize
  split
  next last beforeLast rest backwards =>
    rw [String.toList_append,String.toList_ofList,List.mem_append,not_or,List.mem_reverse]
    refine ⟨fun member => dotless ?_,dot_notMem_pluralEnding beforeLast last⟩
    rw [← List.mem_reverse,backwards]
    exact List.mem_of_mem_drop member
  next => exact dotless

end Naming

def PluralTable.Legal (irregular : PluralTable) : Prop :=
  ∀ singular plural, irregular.get? singular = some plural →
    Identifier.isIdentifier plural = true

theorem Namer.dot_notMem_capitalizedPlural {irregular : PluralTable} (legal : irregular.Legal)
    {type : TypeDescriptor} (named : Identifier.isIdentifier type.name.name = true) :
    '.' ∉ ((Namer.capitalizedPlural irregular).nameOf type).toList := by
  apply Text.dot_notMem_capitalize
  unfold plural
  cases found : irregular.get? type.name.name with
  | some plural => exact Identifier.unmarked_of_isIdentifier (by decide) (legal _ _ found)
  | none =>
    exact Naming.dot_notMem_pluralize (Identifier.unmarked_of_isIdentifier (by decide) named)

namespace NamingKey

variable {first second : TypeDescriptor}

theorem dot_mem_doubled (type : TypeDescriptor) : '.' ∈ (doubled.ofType type).toList := by
  simp [ofType]

theorem doubled_eq_text_iff (firstNamed : Identifier.isIdentifier first.name.name = true)
    (secondNamed : Identifier.isIdentifier second.name.name = true) :
    doubled.ofType first = second.name.text ↔ first.name.package ≠ "" ∧
      second.name = ⟨first.name.package,first.name.name ++ first.name.name⟩ := by
  have apart : Identifier.continues '.' = false := by decide
  have dotless := Identifier.unmarked_of_isIdentifier apart firstNamed
  have otherDotless := Identifier.unmarked_of_isIdentifier apart secondNamed
  obtain ⟨⟨package,name⟩,_,_,_⟩ := second
  by_cases bare : package = ""
  · rw [Name.text,if_pos bare]
    refine iff_of_false (fun same => otherDotless (same ▸ dot_mem_doubled first)) ?_
    rintro ⟨packaged,same⟩
    exact packaged ((congrArg Name.package same).symm.trans bare)
  · have twice : '.' ∉ (first.name.name ++ first.name.name).toList := by simpa using dotless
    rw [Name.text,if_neg bare,ofType,@String.append_assoc _ first.name.name]
    refine (Text.append_mark_inj twice otherDotless).trans ?_
    constructor
    · rintro ⟨rfl,rfl⟩
      exact ⟨bare,rfl⟩
    · rintro ⟨_,⟨⟩⟩
      exact ⟨rfl,rfl⟩

/-- The key of a type's exception is never the plural of a type, however irregular. It is the qualified
name of a type just if that is named by the doubled name, and in the same package, with a path. -/
theorem doubled_apart (firstNamed : Identifier.isIdentifier first.name.name = true)
    (secondNamed : Identifier.isIdentifier second.name.name = true) :
    (∀ irregular : PluralTable, irregular.Legal →
      doubled.ofType first ≠ (Namer.capitalizedPlural irregular).nameOf second) ∧
    (doubled.ofType first ≠ second.name.text ↔ ¬ (first.name.package ≠ "" ∧
      second.name = ⟨first.name.package,first.name.name ++ first.name.name⟩)) := by
  refine ⟨fun irregular legal same => ?_,not_congr (doubled_eq_text_iff firstNamed secondNamed)⟩
  apply Namer.dot_notMem_capitalizedPlural legal secondNamed
  rw [← same]
  exact dot_mem_doubled first

theorem event_key_apart :
    let first := TypeDescriptor.plain "k8s.io/api/events/v1" "Event"
    let second := TypeDescriptor.plain "k8s.io/api/core/v1" "Event"
    let irregular : PluralTable := OrderedMap.ofList [("Event","EventEvent")]
    irregular.Legal ∧ doubled.ofType first ≠ (Namer.capitalizedPlural irregular).nameOf second ∧
      doubled.ofType first ≠ second.name.text := by
  intro first second irregular
  have named : Identifier.isIdentifier "Event" = true := by decide
  have legal : irregular.Legal := by
    intro singular plural found
    obtain ⟨_,rfl⟩ := Prod.mk.inj (List.mem_singleton.mp (OrderedMap.mem_of_get?_ofList found))
    decide
  obtain ⟨plurals,identity⟩ := @doubled_apart first second named named
  exact ⟨legal,plurals irregular legal,identity.mpr (by decide)⟩

/-- A type may be named by the doubled name of another one. -/
theorem not_every_key_apart :
    let first := TypeDescriptor.plain "a" "Event"
    let second := TypeDescriptor.plain "a" "EventEvent"
    (Identifier.isIdentifier first.name.name = true ∧
      Identifier.isIdentifier second.name.name = true ∧
      doubled.ofType first = "a.EventEvent" ∧ second.name.text = "a.EventEvent") ∧
    ¬ ∀ first second : TypeDescriptor, Identifier.isIdentifier first.name.name = true →
      Identifier.isIdentifier second.name.name = true →
      doubled.ofType first ≠ second.name.text ∧ ∀ irregular : PluralTable, irregular.Legal →
        doubled.ofType first ≠ (Namer.capitalizedPlural irregular).nameOf second := by
  intro first second
  have spelled : Identifier.isIdentifier first.name.name = true ∧
      Identifier.isIdentifier second.name.name = true ∧
      doubled.ofType first = "a.EventEvent" ∧ second.name.text = "a.EventEvent" := by
    decide
  refine ⟨spelled,fun always => ?_⟩
  obtain ⟨firstNamed,secondNamed,key,text⟩ := spelled
  exact (always first second firstNamed secondNamed).1 (key.trans text.symm)

end NamingKey

end InformerGen
