import InformerGen.Directive.TagSet
import InformerGen.Proofs.Text.Blank
import Mathlib.Data.List.Forall2

/-! Lists of verbs, as a grammar: verbs with commas between them and blanks around them, at least one
verb and nothing else. A directive's value is read as such a list just if it is one. Otherwise it is
blank, or some item between the commas is no verb. -/
namespace InformerGen

namespace Text

variable {mark : Char} {item : String}

theorem pieces_of_unmarked (unmarked : mark ∉ item.toList) : pieces mark item = [item] := by
  rw [pieces,List.splitOn_eq_singleton unmarked,List.map_singleton,String.ofList_toList]

theorem pieces_append (unmarked : mark ∉ item.toList) (rest : String) :
    pieces mark (item ++ String.singleton mark ++ rest) = item::pieces mark rest := by
  have parts : (item ++ String.singleton mark ++ rest).toList = item.toList ++ mark::rest.toList := by
    simp
  rw [pieces,parts,List.splitOn_append_cons_self_of_not_mem unmarked,List.map_cons,
    String.ofList_toList,pieces]

end Text

namespace Verb

def Spelled (verb : Verb) (item : String) : Prop :=
  ∃ front back, Text.allBlank front = true ∧ Text.allBlank back = true ∧
    item = front ++ verb.text ++ back

theorem text_unblank (verb : Verb) : ∀ c ∈ verb.text.toList, Text.isBlank c = false ∧ c ≠ ',' := by
  have checked : (verb.text.toList.all fun c => !Text.isBlank c && c != ',') = true := by
    cases verb <;> decide
  simpa using checked

theorem ofText?_eq_some_iff {verb : Verb} {text : String} :
    ofText? text = some verb ↔ verb.text = text := by
  constructor
  · intro found
    exact beq_iff_eq.mp (List.find?_some found :)
  · rintro rfl
    cases verb <;> rfl

theorem spelled_iff {verb : Verb} {item : String} :
    verb.Spelled item ↔ ofText? (Text.trim item) = some verb := by
  have unblank := fun c member => (verb.text_unblank c member).1
  rw [ofText?_eq_some_iff,eq_comm,Text.trim_eq_iff unblank]
  rfl

theorem Spelled.unmarked {verb : Verb} {item : String} (spelled : verb.Spelled item) :
    ',' ∉ item.toList := by
  obtain ⟨front,back,blank,alsoBlank,rfl⟩ := spelled
  have comma : Text.isBlank ',' = false := by decide
  intro member
  rw [String.toList_append,String.toList_append,List.mem_append,List.mem_append] at member
  rcases member with (inFront | inVerb) | inBack
  · rw [Text.forall_isBlank_of_allBlank blank _ inFront] at comma
    cases comma
  · exact (verb.text_unblank _ inVerb).2 rfl
  · rw [Text.forall_isBlank_of_allBlank alsoBlank _ inBack] at comma
    cases comma

theorem Spelled.not_blank {verb : Verb} {item : String} (spelled : verb.Spelled item) :
    Text.allBlank item = false := by
  obtain ⟨front,back,_,_,rfl⟩ := spelled
  have filled : verb.text.toList ≠ [] := by cases verb <;> decide
  obtain ⟨c,member⟩ := List.exists_mem_of_ne_nil _ filled
  rw [Text.allBlank,List.all_eq_false]
  exact ⟨c,by simp [member],by simp [(verb.text_unblank c member).1]⟩

end Verb

/-- The text is a comma separated list of the verbs. -/
inductive VerbList : String → List Verb → Prop
  | last {item : String} {verb : Verb} (spelled : verb.Spelled item) : VerbList item [verb]
  | more {item rest : String} {verb : Verb} {verbs : List Verb} (spelled : verb.Spelled item)
      (later : VerbList rest verbs) : VerbList (item ++ "," ++ rest) (verb::verbs)

namespace VerbList

variable {text : String} {verbs : List Verb}

theorem ne_nil (list : VerbList text verbs) : verbs ≠ [] := by
  cases list <;> exact List.cons_ne_nil _ _

theorem iff_pieces : VerbList text verbs ↔
    List.Forall₂ (fun item verb => verb.Spelled item) (Text.pieces ',' text) verbs := by
  constructor
  · intro list
    induction list with
    | last spelled =>
      rw [Text.pieces_of_unmarked spelled.unmarked]
      exact .cons spelled .nil
    | @more item rest verb verbs spelled _ ih =>
      have parts : item ++ "," ++ rest = item ++ String.singleton ',' ++ rest := rfl
      rw [parts,Text.pieces_append spelled.unmarked]
      exact .cons spelled ih
  · intro spelled
    -- Each verb accounts for the text up to its comma, so the induction is on the verbs.
    induction verbs generalizing text with
    | nil =>
      have none := List.map_eq_nil_iff.mp (List.forall₂_nil_right_iff.mp spelled)
      exact absurd none (List.splitOn_ne_nil ',' text.toList)
    | cons verb verbs ih =>
      by_cases several : ',' ∈ text.toList
      · obtain ⟨item,rest,parts,unmarked⟩ := List.eq_append_cons_of_mem several
        have joined : text = String.ofList item ++ String.singleton ',' ++ String.ofList rest := by
          rw [← String.toList_inj]
          simp [parts]
        rw [joined,Text.pieces_append (by simpa using unmarked)] at spelled
        obtain ⟨first,others⟩ := List.forall₂_cons.mp spelled
        rw [joined]
        exact .more first (ih others)
      · rw [Text.pieces_of_unmarked several] at spelled
        obtain ⟨only,nothing⟩ := List.forall₂_cons.mp spelled
        rw [List.forall₂_nil_left_iff] at nothing
        rw [nothing]
        exact .last only

theorem exists_spelled (list : VerbList text verbs) {item : String}
    (member : item ∈ Text.pieces ',' text) : ∃ verb : Verb, verb.Spelled item := by
  rw [iff_pieces] at list
  generalize Text.pieces ',' text = items at list member
  induction list with
  | nil => cases member
  | cons first _ ih =>
    rcases List.mem_cons.mp member with rfl | later
    · exact ⟨_,first⟩
    · exact ih later

theorem unique {others : List Verb} (list : VerbList text verbs) (other : VerbList text others) :
    verbs = others := by
  have one : Relator.RightUnique fun item (verb : Verb) => verb.Spelled item := by
    intro item first second left right
    rw [Verb.spelled_iff] at left right
    exact Option.some.inj (left.symm.trans right)
  exact one.forall₂ (iff_pieces.mp list) (iff_pieces.mp other)

theorem not_blank (list : VerbList text verbs) : Text.allBlank text = false := by
  cases list with
  | last spelled => exact spelled.not_blank
  | more spelled _ =>
    have filled := spelled.not_blank
    rw [Text.allBlank,List.all_eq_false] at filled ⊢
    obtain ⟨c,member,unblank⟩ := filled
    exact ⟨c,by simp [member],unblank⟩

end VerbList

theorem mapM_ok_or_error {ε α β : Type} (read : α → Except ε β) (items : List α) :
    (∃ results, List.Forall₂ (fun item result => read item = .ok result) items results ∧
      items.mapM read = .ok results) ∨
    ∃ item ∈ items, ∃ error, read item = .error error ∧ items.mapM read = .error error := by
  induction items with
  | nil => exact .inl ⟨[],.nil,rfl⟩
  | cons item rest ih =>
    rw [List.mapM_cons]
    cases first : read item with
    | error error => exact .inr ⟨item,List.mem_cons_self,error,first,rfl⟩
    | ok result =>
      rcases ih with ⟨results,each,all⟩ | ⟨other,later,error,refused,all⟩
      · rw [all]
        exact .inl ⟨result::results,.cons first each,rfl⟩
      · rw [all]
        exact .inr ⟨other,List.mem_cons_of_mem _ later,error,refused,rfl⟩

namespace TagSet

variable {directive : Directive} {verbs : List Verb}

theorem readVerb_eq_ok_iff {item : String} {verb : Verb} :
    readVerb directive item = .ok verb ↔ verb.Spelled item := by
  rw [Verb.spelled_iff,readVerb]
  cases Verb.ofText? (Text.trim item) <;> simp

theorem readVerb_eq_error_iff {item : String} {error : TagError} :
    readVerb directive item = .error error ↔ (∀ verb : Verb, ¬verb.Spelled item) ∧
      error = ⟨directive.line,.unknownVerb (Text.trim item)⟩ := by
  simp only [Verb.spelled_iff,readVerb]
  cases Verb.ofText? (Text.trim item) <;> simp [eq_comm]

theorem readVerbs_ok_or_error (directive : Directive) :
    (∃ verbs, VerbList directive.value verbs ∧ readVerbs directive = .ok verbs) ∨
    (Text.allBlank directive.value = true ∧
      readVerbs directive = .error ⟨directive.line,.noVerbs directive.key⟩) ∨
    ∃ item ∈ Text.pieces ',' directive.value, (∀ verb : Verb, ¬verb.Spelled item) ∧
      readVerbs directive = .error ⟨directive.line,.unknownVerb (Text.trim item)⟩ := by
  unfold readVerbs
  split
  next blank => exact .inr (.inl ⟨blank,rfl⟩)
  next filled =>
    rcases mapM_ok_or_error (readVerb directive) (Text.pieces ',' directive.value) with
      ⟨verbs,each,all⟩ | ⟨item,member,error,refused,all⟩
    · refine .inl ⟨verbs,?_,all⟩
      rw [VerbList.iff_pieces]
      exact each.imp fun _ _ => readVerb_eq_ok_iff.mp
    · obtain ⟨unknown,rfl⟩ := readVerb_eq_error_iff.mp refused
      exact .inr (.inr ⟨item,member,unknown,all⟩)

end TagSet

end InformerGen
