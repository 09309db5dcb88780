import InformerGen.Manifest.Validation
import InformerGen.Proofs.Text.Cut

/-! The places that errors point at. The place of a text is where it first stands in quotes, without
these, or else where it first stands at all. In bytes it is a part of the manifest, and that part spells
the text. -/
namespace InformerGen

namespace Text

/-- The needle stands in the text behind so many bytes. -/
def StandsAt (needle text : String) (offset : Nat) : Prop :=
  ∃ before after, text = before ++ needle ++ after ∧ offset = before.utf8ByteSize

structure FirstStandsAt (needle text : String) (offset : Nat) : Prop where
  stands : StandsAt needle text offset
  first : ∀ other, StandsAt needle text other → offset ≤ other

variable {needle text : String} {offset : Nat}

theorem byteLength_toList (text : String) : byteLength text.toList = text.utf8ByteSize := by
  rw [← utf8ByteSize_ofList,String.ofList_toList]

theorem standsAt_iff : StandsAt needle text offset ↔
    ∃ before after, text.toList = before ++ needle.toList ++ after ∧ offset = byteLength before := by
  constructor
  · rintro ⟨before,after,rfl,rfl⟩
    exact ⟨before.toList,after.toList,by simp,(byteLength_toList before).symm⟩
  · rintro ⟨before,after,parts,rfl⟩
    refine ⟨String.ofList before,String.ofList after,String.toList_inj.mp (by simp [parts]),?_⟩
    rw [utf8ByteSize_ofList]

theorem exists_standsAt_iff : (∃ offset, StandsAt needle text offset) ↔
    needle.toList <:+: text.toList := by
  simp only [standsAt_iff]
  constructor
  · rintro ⟨_,before,after,parts,_⟩
    exact ⟨before,after,parts.symm⟩
  · rintro ⟨before,after,parts⟩
    exact ⟨_,before,after,parts.symm,rfl⟩

theorem StandsAt.within (stands : StandsAt needle text offset) :
    offset + needle.utf8ByteSize ≤ text.utf8ByteSize := by
  obtain ⟨before,after,rfl,rfl⟩ := stands
  simp only [String.utf8ByteSize_append]
  omega

theorem StandsAt.extract_eq (stands : StandsAt needle text offset) :
    text.toByteArray.extract offset (offset + needle.utf8ByteSize) = needle.toByteArray := by
  obtain ⟨before,after,rfl,rfl⟩ := stands
  rw [String.toByteArray_append,String.toByteArray_append,ByteArray.append_assoc,
    ← String.size_toByteArray,← String.size_toByteArray,← Nat.add_zero before.toByteArray.size,
    Nat.add_assoc,ByteArray.extract_append_size_add,Nat.zero_add,ByteArray.extract_append_eq_left rfl]

theorem FirstAt.firstStandsAt {before after : List Char}
    (found : FirstAt needle.toList text.toList before after) :
    FirstStandsAt needle text (byteLength before) := by
  refine ⟨standsAt_iff.mpr ⟨before,after,found.parts,rfl⟩,fun other stands => ?_⟩
  obtain ⟨earlier,later,parts,rfl⟩ := standsAt_iff.mp stands
  have opens : before <+: text.toList := ⟨_,by rw [found.parts,List.append_assoc]⟩
  have otherOpens : earlier <+: text.toList := ⟨_,by rw [parts,List.append_assoc]⟩
  have within : before <+: earlier :=
    List.prefix_of_prefix_length_le opens otherOpens (found.first earlier later parts)
  obtain ⟨rest,rfl⟩ := within
  rw [byteLength_append]
  exact Nat.le_add_right _ _

theorem FirstStandsAt.unique {other : Nat} (first : FirstStandsAt needle text offset)
    (also : FirstStandsAt needle text other) : offset = other :=
  Nat.le_antisymm (first.first other also.stands) (also.first offset first.stands)

end Text

open Text

variable {needle text : String} {offset : Nat}

theorem offsetOf?_eq_none_iff : offsetOf? needle.toList text.toList = none ↔
    ∀ offset, ¬StandsAt needle text offset := by
  rw [offsetOf?,Option.map_eq_none_iff,cut_eq_none_iff,← exists_standsAt_iff,not_exists]

theorem offsetOf?_eq_some_iff : offsetOf? needle.toList text.toList = some offset ↔
    FirstStandsAt needle text offset := by
  constructor
  · intro found
    obtain ⟨⟨before,after⟩,parts,rfl⟩ := Option.map_eq_some_iff.mp found
    exact (firstAt_of_cut parts).firstStandsAt
  · intro first
    cases found : offsetOf? needle.toList text.toList with
    | none => exact absurd first.stands (offsetOf?_eq_none_iff.mp found offset)
    | some other =>
      obtain ⟨⟨before,after⟩,parts,rfl⟩ := Option.map_eq_some_iff.mp found
      exact congrArg some ((firstAt_of_cut parts).firstStandsAt.unique first)

namespace ManifestSource

def quoted (needle : String) : String := "\"" ++ needle ++ "\""

/-- The span is the part of the text that spells the needle, inside of the first quotes with nothing else
in them, or else where the needle stands first. -/
structure Marks (text needle : String) (span : Span) : Prop where
  filled : needle ≠ ""
  length : span.length = needle.utf8ByteSize
  within : span.offset + span.length ≤ text.utf8ByteSize
  spells : text.toByteArray.extract span.offset (span.offset + span.length) = needle.toByteArray
  chosen : (∃ quote, FirstStandsAt (quoted needle) text quote ∧ span.offset = quote + 1) ∨
    (∀ quote, ¬StandsAt (quoted needle) text quote) ∧ FirstStandsAt needle text span.offset

/-- The place that a needle has in the text, if it has any. -/
inductive PlaceOf (text needle : String) : Option Span → Prop
  | empty (empty : needle = "") : PlaceOf text needle none
  | absent (absent : ∀ offset, ¬StandsAt needle text offset) : PlaceOf text needle none
  | marked {span : Span} (marks : Marks text needle span) : PlaceOf text needle (some span)

theorem standsAt_of_quoted (stands : StandsAt (quoted needle) text offset) :
    StandsAt needle text (offset + 1) := by
  obtain ⟨before,after,rfl,rfl⟩ := stands
  refine ⟨before ++ "\"","\"" ++ after,by simp [quoted,String.append_assoc],?_⟩
  rw [String.utf8ByteSize_append]
  rfl

variable {source : ManifestSource} {span : Span}

theorem toList_quoted (needle : String) : (quoted needle).toList = '"'::needle.toList ++ ['"'] := by
  simp [quoted]

theorem find?_of_quoted {quote : Nat} (filled : needle ≠ "")
    (found : offsetOf? (quoted needle).toList source.text.toList = some quote) :
    source.find? needle = some ⟨quote + 1,needle.utf8ByteSize⟩ := by
  have sought : needle.toList.isEmpty = false := by simpa using filled
  rw [toList_quoted] at found
  simp only [find?,sought,Bool.false_eq_true,if_false,found,byteLength_toList]

theorem find?_of_unquoted (filled : needle ≠ "")
    (missed : offsetOf? (quoted needle).toList source.text.toList = none) : source.find? needle =
      (offsetOf? needle.toList source.text.toList).map fun offset => ⟨offset,needle.utf8ByteSize⟩ := by
  have sought : needle.toList.isEmpty = false := by simpa using filled
  rw [toList_quoted] at missed
  simp only [find?,sought,Bool.false_eq_true,if_false,missed,byteLength_toList]

theorem placeOf_find? (source : ManifestSource) (needle : String) :
    PlaceOf source.text needle (source.find? needle) := by
  by_cases empty : needle = ""
  · have nowhere : source.find? needle = none := by simp [find?,empty]
    exact nowhere ▸ .empty empty
  cases inQuotes : offsetOf? (quoted needle).toList source.text.toList with
  | some quote =>
    have first := offsetOf?_eq_some_iff.mp inQuotes
    have stands := standsAt_of_quoted first.stands
    rw [find?_of_quoted empty inQuotes]
    exact .marked ⟨empty,rfl,stands.within,stands.extract_eq,.inl ⟨quote,first,rfl⟩⟩
  | none =>
    have unquoted := offsetOf?_eq_none_iff.mp inQuotes
    rw [find?_of_unquoted empty inQuotes]
    cases plain : offsetOf? needle.toList source.text.toList with
    | some offset =>
      have first := offsetOf?_eq_some_iff.mp plain
      have stands := first.stands
      exact .marked ⟨empty,rfl,stands.within,stands.extract_eq,.inr ⟨unquoted,first⟩⟩
    | none => exact .absent (offsetOf?_eq_none_iff.mp plain)

theorem Marks.stands (marks : Marks text needle span) : StandsAt needle text span.offset := by
  rcases marks.chosen with ⟨quote,first,same⟩ | ⟨_,first⟩
  · exact same ▸ standsAt_of_quoted first.stands
  · exact first.stands

theorem Marks.unique {other : Span} (marks : Marks text needle span) (also : Marks text needle other) :
    span = other := by
  have length : span.length = other.length := marks.length.trans also.length.symm
  have offset : span.offset = other.offset := by
    rcases marks.chosen with ⟨quote,first,same⟩ | ⟨unquoted,first⟩ <;>
      rcases also.chosen with ⟨otherQuote,otherFirst,otherSame⟩ | ⟨otherUnquoted,otherFirst⟩
    · rw [same,otherSame,first.unique otherFirst]
    · exact absurd first.stands (otherUnquoted quote)
    · exact absurd otherFirst.stands (unquoted otherQuote)
    · exact first.unique otherFirst
  exact congrArg₂ Span.mk offset length

theorem PlaceOf.unique {place other : Option Span} (placed : PlaceOf text needle place)
    (also : PlaceOf text needle other) : place = other := by
  cases placed with
  | empty empty =>
    cases also with
    | marked marks => exact absurd empty marks.filled
    | _ => rfl
  | absent absent =>
    cases also with
    | marked marks => exact absurd marks.stands (absent _)
    | _ => rfl
  | marked marks =>
    cases also with
    | empty empty => exact absurd empty marks.filled
    | absent absent => exact absurd marks.stands (absent _)
    | marked alsoMarks => rw [marks.unique alsoMarks]

theorem find?_eq_iff {place : Option Span} :
    source.find? needle = place ↔ PlaceOf source.text needle place :=
  ⟨fun found => found ▸ placeOf_find? source needle,(placeOf_find? source needle).unique⟩

end ManifestSource

def Problem.name? : Problem → Option String
  | .validation _ => none
  | .invalidIdentifier name _ => some name
  | .duplicate _ name => some name

theorem Violation.needle_of_name? {violation : Violation} {name : String}
    (named : violation.problem.name? = some name) : violation.needle = name := by
  cases violation <;> cases named <;> rfl

theorem Manifest.violation_of_parse {source : ManifestSource} {error : ManifestError}
    (refused : parse source = .error error) : error = .malformed source.file ∨
      ∃ violation : Violation, error = source.tell violation.needle violation.problem := by
  unfold parse at refused
  split at refused
  next => exact .inl (Except.error.inj refused).symm
  next =>
    split at refused
    next => cases refused
    next violation _ => exact .inr ⟨violation,(Except.error.inj refused).symm⟩

/-- A needle has a place in the text just if it is not empty and stands there, and the errors are told of
this place. What is wrong with a manifest is told of the place of what its rule looks for, and that is the
name if the problem is about one. -/
theorem ManifestSource.needles_placed (source : ManifestSource) :
    (∀ needle place, source.find? needle = place ↔ PlaceOf source.text needle place) ∧
    (∀ needle problem, ∃ place, PlaceOf source.text needle place ∧
      source.tell needle problem = .invalid source.file place problem) ∧
    ∀ file place problem, Manifest.parse source = .error (.invalid file place problem) →
      file = source.file ∧ ∃ violation : Violation, problem = violation.problem ∧
        PlaceOf source.text violation.needle place ∧
        ∀ name, problem.name? = some name → violation.needle = name := by
  refine ⟨fun needle place => find?_eq_iff,?_,?_⟩
  · intro needle problem
    exact ⟨_,placeOf_find? source needle,rfl⟩
  · intro file place problem refused
    rcases Manifest.violation_of_parse refused with malformed | ⟨violation,told⟩
    · cases malformed
    · obtain ⟨rfl,rfl,rfl⟩ := ManifestError.invalid.inj told
      exact ⟨rfl,violation,rfl,placeOf_find? source _,fun name => Violation.needle_of_name?⟩

/-- Behind a character of two bytes stands a needle, first without quotes and then in quotes, and a
version that is no identifier stands behind a word that has the same character. -/
theorem ManifestSource.version_placed :
    let source : ManifestSource := ⟨"m","ä apps = \"apps\""⟩
    let refused : ManifestSource := ⟨"m","output=[\"o-o\"]\ngroup=[\"g\",\"-\"]\n" ++
      "packages=[\"c\",\"c\",\"c\",\"c\"]"⟩
    PlaceOf source.text "apps" (some ⟨11,4⟩) ∧ PlaceOf source.text " = \"" (some ⟨7,4⟩) ∧
      PlaceOf source.text "widgets" none ∧
      Manifest.parse refused =
        .error (.invalid "m" (some ⟨27,1⟩) (.invalidIdentifier "-" "group version")) ∧
      PlaceOf refused.text "-" (some ⟨27,1⟩) := by
  intro source refused
  have found : source.find? "apps" = some ⟨11,4⟩ ∧ source.find? " = \"" = some ⟨7,4⟩ ∧
      source.find? "widgets" = none := by
    decide +kernel
  have told : Manifest.parse refused =
      .error (.invalid "m" (some ⟨27,1⟩) (.invalidIdentifier "-" "group version")) := by
    decide +kernel
  obtain ⟨placed,_,_⟩ := needles_placed source
  obtain ⟨_,_,pointed⟩ := needles_placed refused
  obtain ⟨_,violation,_,place,named⟩ := pointed _ _ _ told
  rw [named "-" rfl] at place
  exact ⟨(placed _ _).mp found.1,(placed _ _).mp found.2.1,(placed _ _).mp found.2.2,told,place⟩

end InformerGen
