import InformerGen.Directive
import InformerGen.Proofs.Text.Blank
import InformerGen.Proofs.Text.Cut

/-! What stands on a line that is a directive: the marker, a key without an equals sign, and after such
a sign the value. Of the directives with one key the last decides, and there is one if there is any. -/
namespace InformerGen

namespace Directive

variable {marker line key value : String} {lines : List String} {directive : Directive}

/-- The line is a directive with the key and the value: without the blanks around it, it is the marker
and the key, and then an equals sign and the value unless that is empty. -/
structure Carries (marker line key value : String) : Prop where
  undivided : '=' ∉ key.toList
  spelling : Text.trim line = marker ++ key ∧ value = "" ∨
    Text.trim line = marker ++ key ++ "=" ++ value

theorem ofLine?_of_undivided {key : List Char} (undivided : '=' ∉ key)
    (spelling : (Text.trim line).toList = marker.toList ++ key) :
    ofLine? marker line = some ⟨String.ofList key,"",Text.trim line⟩ := by
  rw [ofLine?,spelling,List.isPrefixOf?_eq_some_iff_append_eq.mpr rfl,Option.map_some,
    Text.splitAtFirst_of_unmarked undivided]

theorem ofLine?_of_divided {key value : List Char} (undivided : '=' ∉ key)
    (spelling : (Text.trim line).toList = marker.toList ++ (key ++ '='::value)) :
    ofLine? marker line = some ⟨String.ofList key,String.ofList value,Text.trim line⟩ := by
  rw [ofLine?,spelling,List.isPrefixOf?_eq_some_iff_append_eq.mpr rfl,Option.map_some,
    Text.splitAtFirst_append undivided]

theorem Carries.ofLine?_eq (carries : Carries marker line key value) :
    ofLine? marker line = some ⟨key,value,Text.trim line⟩ := by
  rcases carries.spelling with ⟨spelling,rfl⟩ | spelling
  · rw [ofLine?_of_undivided carries.undivided (by simp [spelling]),String.ofList_toList]
  · have parts : (Text.trim line).toList = marker.toList ++ (key.toList ++ '='::value.toList) := by
      simp [spelling]
    rw [ofLine?_of_divided carries.undivided parts,String.ofList_toList,String.ofList_toList]

theorem carries_of_ofLine? (read : ofLine? marker line = some directive) :
    Carries marker line directive.key directive.value := by
  obtain ⟨rest,opened,_⟩ := Option.map_eq_some_iff.mp read
  have spelling := Text.isPrefixOf?_eq_some opened
  by_cases divided : '=' ∈ rest
  · obtain ⟨key,value,rfl,undivided⟩ := List.eq_append_cons_of_mem divided
    rw [ofLine?_of_divided undivided spelling] at read
    cases read
    exact ⟨by simpa using undivided,.inr (String.toList_inj.mp (by simp [spelling]))⟩
  · rw [ofLine?_of_undivided divided spelling] at read
    cases read
    exact ⟨by simpa using divided,.inl ⟨String.toList_inj.mp (by simp [spelling]),rfl⟩⟩

theorem line_of_ofLine? (read : ofLine? marker line = some directive) :
    directive.line = Text.trim line := by
  have same := (carries_of_ofLine? read).ofLine?_eq
  rw [read,Option.some.injEq] at same
  rw [same]

theorem ofLine?_eq_some_iff : ofLine? marker line = some directive ↔
    directive.line = Text.trim line ∧ Carries marker line directive.key directive.value := by
  constructor
  · intro read
    exact ⟨line_of_ofLine? read,carries_of_ofLine? read⟩
  · rintro ⟨same,carries⟩
    rw [carries.ofLine?_eq,← same]

theorem mem_ofLines : directive ∈ ofLines marker lines ↔
    ∃ line ∈ lines, directive.line = Text.trim line ∧
      Carries marker line directive.key directive.value := by
  simp only [ofLines,List.mem_filterMap,ofLine?_eq_some_iff]

def Carried (marker : String) (lines : List String) (key : String) : Prop :=
  ∃ line ∈ lines, ∃ value, Carries marker line key value

theorem carried_iff_mem : Carried marker lines key ↔ key ∈ (ofLines marker lines).map (·.key) := by
  rw [List.mem_map]
  constructor
  · rintro ⟨line,member,value,carries⟩
    exact ⟨⟨key,value,Text.trim line⟩,mem_ofLines.mpr ⟨line,member,rfl,carries⟩,rfl⟩
  · rintro ⟨directive,listed,rfl⟩
    obtain ⟨line,member,_,carries⟩ := mem_ofLines.mp listed
    exact ⟨line,member,directive.value,carries⟩

/-- The line is the last directive with the key, and gives it the value. -/
def Decides (lines : List String) (line key value : String) : Prop :=
  ∃ before after, lines = before ++ line::after ∧ Carries defaultMarker line key value ∧
    ∀ later ∈ after, ∀ other, ¬Carries defaultMarker later key other

namespace Decides

theorem mem (decides : Decides lines line key value) : line ∈ lines := by
  obtain ⟨before,after,rfl,_⟩ := decides
  simp

theorem carries (decides : Decides lines line key value) : Carries defaultMarker line key value := by
  obtain ⟨_,_,_,carries,_⟩ := decides
  exact carries

theorem carried (decides : Decides lines line key value) : Carried defaultMarker lines key :=
  ⟨line,decides.mem,value,decides.carries⟩

end Decides

theorem filter_ofLine?_eq_some_iff :
    (ofLine? marker line).filter (·.key == key) = some directive ↔
      directive.key = key ∧ directive.line = Text.trim line ∧
        Carries marker line key directive.value := by
  rw [Option.filter_eq_some_iff,ofLine?_eq_some_iff,beq_iff_eq]
  constructor
  · rintro ⟨⟨line,carries⟩,rfl⟩
    exact ⟨rfl,line,carries⟩
  · rintro ⟨rfl,line,carries⟩
    exact ⟨⟨line,carries⟩,rfl⟩

theorem filter_ofLine?_eq_none_iff :
    (ofLine? marker line).filter (·.key == key) = none ↔ ∀ value, ¬Carries marker line key value := by
  constructor
  · intro none value carries
    rw [carries.ofLine?_eq] at none
    simp at none
  · intro none
    rw [Option.eq_none_iff_forall_ne_some]
    intro directive found
    exact none directive.value (filter_ofLine?_eq_some_iff.mp found).2.2

theorem last?_ofLines (key : String) (lines : List String) :
    last? key (ofLines defaultMarker lines) =
      lines.reverse.findSome? fun line => (ofLine? defaultMarker line).filter (·.key == key) := by
  rw [last?,withKey,ofLines,List.filter_filterMap,List.getLast?_filterMap]

theorem last?_eq_some_iff : last? key (ofLines defaultMarker lines) = some directive ↔
    directive.key = key ∧ ∃ line, directive.line = Text.trim line ∧
      Decides lines line key directive.value := by
  rw [last?_ofLines,List.findSome?_eq_some_iff]
  simp only [filter_ofLine?_eq_some_iff,filter_ofLine?_eq_none_iff]
  -- The search goes from the last line to the first, so what it has passed comes after the line.
  constructor
  · rintro ⟨after,line,before,backwards,⟨same,trimmed,carries⟩,none⟩
    refine ⟨same,line,trimmed,before.reverse,after.reverse,?_,carries,?_⟩
    · rw [← List.reverse_reverse lines,backwards]
      simp
    · intro later member
      exact none later (List.mem_reverse.mp member)
  · rintro ⟨same,line,trimmed,before,after,rfl,carries,none⟩
    refine ⟨after.reverse,line,before.reverse,by simp,⟨same,trimmed,carries⟩,?_⟩
    intro later member
    exact none later (List.mem_reverse.mp member)

theorem last?_eq_none_iff : last? key (ofLines defaultMarker lines) = none ↔
    ¬Carried defaultMarker lines key := by
  simp only [last?_ofLines,List.findSome?_eq_none_iff,filter_ofLine?_eq_none_iff,List.mem_reverse,
    Carried,not_exists,not_and]

theorem Decides.last?_eq (decides : Decides lines line key value) :
    last? key (ofLines defaultMarker lines) = some ⟨key,value,Text.trim line⟩ :=
  last?_eq_some_iff.mpr ⟨rfl,line,rfl,decides⟩

theorem lastValue?_eq_some_iff :
    lastValue? key lines = some value ↔ ∃ line, Decides lines line key value := by
  rw [lastValue?,Option.map_eq_some_iff]
  constructor
  · rintro ⟨directive,last,rfl⟩
    obtain ⟨_,line,_,decides⟩ := last?_eq_some_iff.mp last
    exact ⟨line,decides⟩
  · rintro ⟨line,decides⟩
    exact ⟨_,decides.last?_eq,rfl⟩

theorem Decides.value_unique {other otherValue : String} (decides : Decides lines line key value)
    (also : Decides lines other key otherValue) : value = otherValue := by
  have same := decides.last?_eq.symm.trans also.last?_eq
  exact congrArg Directive.value (Option.some.inj same)

end Directive

end InformerGen
