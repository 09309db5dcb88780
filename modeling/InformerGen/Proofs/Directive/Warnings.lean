import InformerGen.Directive.TagSet
import InformerGen.Proofs.Directive.Groups

/-! The warnings about directives that are not understood: one for each key, in the order in which the
keys first occur. They are meant for the keys in the namespace of the client's directives, but a key is
warned about as soon as it opens with the name of that namespace. -/
namespace InformerGen

namespace Directive

variable {lines : List String} {key : String}

/-- The keys on the lines of which something holds, each of them once, in the order in which they first
occur. -/
structure FirstSeen (lines : List String) (Holds : String → Prop) (keys : List String) : Prop where
  mem_iff : ∀ key, key ∈ keys ↔ Carried defaultMarker lines key ∧ Holds key
  ordered : keys.Pairwise (CarriedBefore defaultMarker lines)

theorem firstSeen_keys (lines : List String) (chosen : String → Bool) :
    FirstSeen lines (fun key => chosen key = true)
      ((keys (ofLines defaultMarker lines)).filter chosen) := by
  refine ⟨fun key => ?_,(keys_pairwise defaultMarker lines).filter chosen⟩
  rw [List.mem_filter,mem_keys]

end Directive

namespace TagSet

open Directive

/-- What the keys of directives about clients begin with, the one that enables generation apart. -/
def clientNamespace : String := "genclient:"

/-- The key stands in the namespace and is none of those that are understood. -/
def Unknown (key : String) : Prop :=
  clientNamespace.toList <+: key.toList ∧ key ∉ supportedKeys

/-- The key opens with the name of the namespace and yet stands outside of it. -/
def Resembles (key : String) : Prop :=
  clientKey.toList <+: key.toList ∧ key ≠ clientKey ∧ ¬clientNamespace.toList <+: key.toList

def unknownWarning (key : String) : Event :=
  ⟨.warn,"ignoring unknown genclient directive",[("tag",key)]⟩

variable {lines : List String} {tags : TagSet} {key : String}

theorem within_of_supported (supported : key ∈ supportedKeys) :
    key = clientKey ∨ clientNamespace.toList <+: key.toList := by
  revert key
  decide

theorem unsupported_iff : clientKey.toList <+: key.toList ∧ key ∉ supportedKeys ↔
    Unknown key ∨ Resembles key := by
  have within : clientKey.toList <+: clientNamespace.toList := ⟨[':'],by decide⟩
  constructor
  · rintro ⟨opens,unsupported⟩
    by_cases inside : clientNamespace.toList <+: key.toList
    · exact .inl ⟨inside,unsupported⟩
    · refine .inr ⟨opens,?_,inside⟩
      rintro rfl
      exact unsupported (by decide)
  · rintro (⟨inside,unsupported⟩ | ⟨opens,other,outside⟩)
    · exact ⟨within.trans inside,unsupported⟩
    · exact ⟨opens,fun supported => (within_of_supported supported).elim other outside⟩

theorem warnings_of_parse (parsed : parse lines = .ok tags) :
    ∃ keys, FirstSeen lines (fun key => Unknown key ∨ Resembles key) keys ∧
      warnings lines = keys.map unknownWarning := by
  refine ⟨unknownKeys lines,?_,by rw [warnings,parsed]; rfl⟩
  have seen := firstSeen_keys lines fun key =>
    clientKey.toList.isPrefixOf key.toList && !supportedKeys.contains key
  refine ⟨fun key => (seen.mem_iff key).trans (and_congr_right fun _ => ?_),seen.ordered⟩
  rw [← unsupported_iff,Bool.and_eq_true,List.isPrefixOf_iff_prefix,Bool.not_eq_true',
    ← Bool.not_eq_true,List.contains_iff_mem]

/-- Comments that can be read are warned about key by key, in the order in which the keys first occur.
The warnings are those for the unknown keys of the namespace just if no key merely resembles these. -/
theorem warnings_of_namespace_iff (parsed : parse lines = .ok tags) :
    (∃ keys, FirstSeen lines (fun key => Unknown key ∨ Resembles key) keys ∧
      warnings lines = keys.map unknownWarning) ∧
    ((∃ keys, FirstSeen lines Unknown keys ∧ warnings lines = keys.map unknownWarning) ↔
      ∀ key, Carried defaultMarker lines key → ¬Resembles key) := by
  obtain ⟨warned,seen,same⟩ := warnings_of_parse parsed
  refine ⟨⟨warned,seen,same⟩,?_,fun unlike => ⟨warned,⟨fun key => ?_,seen.ordered⟩,same⟩⟩
  · rintro ⟨keys,unknown,also⟩ key carried resembles
    have injective : Function.Injective unknownWarning := by
      rintro first second ⟨⟩
      rfl
    have listed := (seen.mem_iff key).mpr ⟨carried,.inr resembles⟩
    rw [List.map_injective_iff.mpr injective (same.symm.trans also)] at listed
    exact resembles.2.2 ((unknown.mem_iff key).mp listed).2.1
  · rw [seen.mem_iff]
    exact and_congr_right fun carried => or_iff_left (unlike key carried)

/-- Unknown keys of the namespace between others, one of them twice, and one outside of it. -/
theorem namespace_warned :
    let lines := ["+genclient:x","+genclient","+gen"," +genclient:o=1","+genclient:x=2"]
    (∃ tags, parse lines = .ok tags) ∧
      (∀ key, Carried defaultMarker lines key → ¬Resembles key) ∧
      warnings lines = ["genclient:x","genclient:o"].map unknownWarning ∧
      ∃ keys, FirstSeen lines Unknown keys ∧ warnings lines = keys.map unknownWarning := by
  intro lines
  have results : parse lines = .ok ⟨true,false,false,false,[],none⟩ ∧
      (ofLines defaultMarker lines).map (·.key) =
        ["genclient:x","genclient","gen","genclient:o","genclient:x"] ∧
      warnings lines = ["genclient:x","genclient:o"].map unknownWarning := by
    decide
  obtain ⟨read,keys,warned⟩ := results
  have unlike : ∀ key, Carried defaultMarker lines key → ¬Resembles key := by
    intro key
    rw [carried_iff_mem,keys]
    revert key
    simp only [Resembles,← List.isPrefixOf_iff_prefix]
    decide
  exact ⟨⟨_,read⟩,unlike,warned,(warnings_of_namespace_iff read).2.mpr unlike⟩

/-- A key may be warned about that is none of the namespace. -/
theorem not_every_warning_of_namespace :
    ¬∀ (lines : List String) (tags : TagSet), parse lines = .ok tags →
      ∃ keys, FirstSeen lines Unknown keys ∧ warnings lines = keys.map unknownWarning := by
  intro always
  have results : parse ["+genclientish"] = .ok ⟨false,false,false,false,[],none⟩ ∧
      warnings ["+genclientish"] = [unknownWarning "genclientish"] := by
    decide
  obtain ⟨read,warned⟩ := results
  obtain ⟨keys,seen,same⟩ := always _ _ read
  rw [warned] at same
  obtain ⟨key,rest,rfl,warning,_⟩ := List.map_eq_cons_iff.mp same.symm
  cases warning
  have unknown := ((seen.mem_iff "genclientish").mp List.mem_cons_self).2.1
  rw [← List.isPrefixOf_iff_prefix] at unknown
  revert unknown
  decide

end TagSet

end InformerGen
