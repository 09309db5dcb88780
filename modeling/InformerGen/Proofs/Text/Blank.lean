import InformerGen.Text.Blank
import Mathlib.Data.List.DropRight

/-! Trimming takes away blanks at both ends and nothing else. A text may therefore be padded with blanks
before it is trimmed, and to trim it twice is to trim it once. -/
namespace InformerGen.Text

variable {front back : List Char}

theorem trimEndChars_eq_rdropWhile (text : List Char) :
    trimEndChars text = text.rdropWhile isBlank := by
  induction text with
  | nil => rfl
  | cons c rest ih =>
    have step : trimEndChars (c::rest) =
        if (trimEndChars rest).isEmpty && isBlank c then [] else c::trimEndChars rest := rfl
    rw [step,ih,List.rdropWhile,List.rdropWhile,List.reverse_cons,List.dropWhile_append]
    cases rest.reverse.dropWhile isBlank <;> cases blank : isBlank c <;> simp [blank]

theorem trimChars_blanks_append (blank : ∀ c ∈ front, isBlank c = true) (text : List Char) :
    trimChars (front ++ text) = trimChars text := by
  rw [trimChars,trimChars,List.dropWhile_append_of_pos blank]

theorem trimChars_append_blanks (blank : ∀ c ∈ back, isBlank c = true) (text : List Char) :
    trimChars (text ++ back) = trimChars text := by
  simp only [trimChars,trimEndChars_eq_rdropWhile,List.dropWhile_append]
  cases dropped : text.dropWhile isBlank with
  | nil => simp [List.dropWhile_eq_nil_iff.mpr blank]
  | cons c rest =>
    rw [List.isEmpty_cons,if_neg Bool.false_ne_true,List.rdropWhile,List.rdropWhile,
      List.reverse_append,List.dropWhile_append_of_pos fun d member => blank d (by simpa using member)]

theorem exists_blanks_trimChars (text : List Char) :
    ∃ front back, (∀ c ∈ front, isBlank c = true) ∧ (∀ c ∈ back, isBlank c = true) ∧
      text = front ++ trimChars text ++ back := by
  refine ⟨text.takeWhile isBlank,(text.dropWhile isBlank).rtakeWhile isBlank,
    fun c => List.mem_takeWhile_imp,fun c => List.mem_rtakeWhile_imp,?_⟩
  rw [trimChars,trimEndChars_eq_rdropWhile,List.append_assoc,List.rdropWhile_append_rtakeWhile,
    List.takeWhile_append_dropWhile]

theorem trimChars_trimChars (text : List Char) : trimChars (trimChars text) = trimChars text := by
  obtain ⟨front,back,blank,alsoBlank,parts⟩ := exists_blanks_trimChars text
  conv_rhs => rw [parts]
  rw [trimChars_append_blanks alsoBlank,trimChars_blanks_append blank]

theorem trim_trim (text : String) : trim (trim text) = trim text := by
  rw [trim,trim,String.toList_ofList,trimChars_trimChars]

theorem forall_isBlank_of_allBlank {text : String} (blank : allBlank text = true) :
    ∀ c ∈ text.toList, isBlank c = true :=
  List.all_eq_true.mp blank

theorem trim_padded {front back : String} (blank : allBlank front = true)
    (alsoBlank : allBlank back = true) (text : String) : trim (front ++ text ++ back) = trim text := by
  rw [trim,trim,String.toList_append,String.toList_append,
    trimChars_append_blanks (forall_isBlank_of_allBlank alsoBlank),
    trimChars_blanks_append (forall_isBlank_of_allBlank blank)]

theorem trim_eq_self {word : String} (unblank : ∀ c ∈ word.toList, isBlank c = false) :
    trim word = word := by
  obtain ⟨front,back,blank,alsoBlank,parts⟩ := exists_blanks_trimChars word.toList
  have none {text : List Char} (blank : ∀ c ∈ text, isBlank c = true)
      (inside : ∀ c ∈ text, c ∈ word.toList) : text = [] := by
    rw [List.eq_nil_iff_forall_not_mem]
    intro c member
    have contrary := unblank c (inside c member)
    rw [blank c member] at contrary
    cases contrary
  have noFront : front = [] := none blank fun c member => by rw [parts]; simp [member]
  have noBack : back = [] := none alsoBlank fun c member => by rw [parts]; simp [member]
  rw [noFront,noBack,List.nil_append,List.append_nil] at parts
  rw [trim,← parts,String.ofList_toList]

theorem trim_eq_iff {word : String} (unblank : ∀ c ∈ word.toList, isBlank c = false)
    {text : String} : trim text = word ↔
      ∃ front back, allBlank front = true ∧ allBlank back = true ∧ text = front ++ word ++ back := by
  constructor
  · rintro rfl
    obtain ⟨front,back,blank,alsoBlank,parts⟩ := exists_blanks_trimChars text.toList
    refine ⟨String.ofList front,String.ofList back,?_,?_,?_⟩
    · rwa [allBlank,String.toList_ofList,List.all_eq_true]
    · rwa [allBlank,String.toList_ofList,List.all_eq_true]
    · rw [← String.toList_inj,String.toList_append,String.toList_append]
      simpa [trim] using parts
  · rintro ⟨front,back,blank,alsoBlank,rfl⟩
    rw [trim_padded blank alsoBlank,trim_eq_self unblank]

end InformerGen.Text
