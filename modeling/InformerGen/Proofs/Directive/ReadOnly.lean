import InformerGen.Proofs.Directive.Grammar

/-! A type that is to be read only keeps the verbs that read. What is listed to be kept is kept beside
them, so it loses the verbs that write only as long as none of them is listed. -/
namespace InformerGen.TagSet

open Directive

variable {lines : List String} {tags : TagSet}

/-- A type that is to be read only has a verb if it has any verbs, and if that one reads or is listed to
be kept. -/
theorem Describes.hasVerb_of_readOnly (describes : Describes lines tags)
    (readOnly : Carried defaultMarker lines readOnlyKey) (verb : Verb) :
    tags.hasVerb verb = true ↔ ¬Carried defaultMarker lines noVerbsKey ∧
      (verb ∈ Verb.readOnly ∨ Listed lines onlyVerbsKey verb) := by
  rw [describes.hasVerb,Kept]
  refine and_congr_right fun _ => ?_
  constructor
  · rintro ((listed | ⟨_,reads⟩) | ⟨_,absent,_⟩)
    · exact .inr listed
    · exact .inl reads
    · exact absurd readOnly absent
  · rintro (reads | listed)
    · exact .inl (.inr ⟨readOnly,reads⟩)
    · exact .inl (.inl listed)

/-- A type that is to be read only has no verb that writes, just if it has no verbs at all or none of
those that are listed to be kept writes. -/
theorem writes_nothing_iff (parsed : parse lines = .ok tags)
    (readOnly : Carried defaultMarker lines readOnlyKey) :
    (∀ verb, verb ∉ Verb.readOnly → tags.hasVerb verb = false) ↔
      Carried defaultMarker lines noVerbsKey ∨
        ∀ verb, Listed lines onlyVerbsKey verb → verb ∈ Verb.readOnly := by
  have describes := ((reads_parse lines).holds parsed).2
  simp only [← Bool.not_eq_true,describes.hasVerb_of_readOnly readOnly,not_and,not_or]
  constructor
  · intro nothing
    by_cases without : Carried defaultMarker lines noVerbsKey
    · exact .inl without
    · refine .inr fun verb listed => ?_
      by_contra writes
      exact (nothing verb writes without).2 listed
  · rintro (without | reading) verb writes someVerbs
    · exact absurd without someVerbs
    · exact ⟨writes,fun listed => writes (reading verb listed)⟩

theorem listed_reading_writes_nothing :
    let lines := ["+genclient:onlyVerbs=get","+genclient:readonly"]
    (∃ tags, parse lines = .ok tags) ∧ Carried defaultMarker lines readOnlyKey ∧
      ∀ verb, Listed lines onlyVerbsKey verb → verb ∈ Verb.readOnly := by
  intro lines
  have results : parse lines = .ok ⟨false,false,false,false,[.create,.update,.updateStatus,.delete,
        .deleteCollection,.patch],none⟩ ∧
      mentions (ofLines defaultMarker lines) readOnlyKey = true ∧
      mentions (ofLines defaultMarker lines) noVerbsKey = false := by
    decide +kernel
  obtain ⟨read,mentioned,unmentioned⟩ := results
  have readOnly := (mentions_iff lines readOnlyKey).mp mentioned
  rw [← Bool.not_eq_true,mentions_iff] at unmentioned
  refine ⟨⟨_,read⟩,readOnly,?_⟩
  have nothing := (writes_nothing_iff read readOnly).mp fun verb => by cases verb <;> decide
  exact nothing.resolve_left unmentioned

/-- A list may keep a verb that writes, though the type is to be read only. -/
theorem not_every_readOnly_writes_nothing :
    ¬∀ (lines : List String) (tags : TagSet), parse lines = .ok tags →
      Carried defaultMarker lines readOnlyKey →
        ∀ verb, verb ∉ Verb.readOnly → tags.hasVerb verb = false := by
  intro never
  have results : parse ["+genclient:readonly","+genclient:onlyVerbs=create"] =
        .ok ⟨false,false,false,false,[.update,.updateStatus,.delete,.deleteCollection,.patch],none⟩ ∧
      mentions (ofLines defaultMarker ["+genclient:readonly","+genclient:onlyVerbs=create"])
        readOnlyKey = true := by
    decide +kernel
  obtain ⟨read,mentioned⟩ := results
  have writes := never _ _ read ((mentions_iff _ _).mp mentioned) .create (by decide)
  revert writes
  decide

end InformerGen.TagSet
