import InformerGen.Proofs.Template
import InformerGen.Proofs.Template.Grammar
import Mathlib.Data.List.Chain

/-! Reading a template text loses nothing of it. Each segment stands for a piece of the text, and the
pieces are the text; a placeholder's offset is the byte at which its piece begins. -/
namespace InformerGen.Template

open Text

def fromByte : Nat → List Char → List Char
  | 0, text => text
  | _ + 1, [] => []
  | byte + 1, c::rest => fromByte (byte + 1 - c.utf8Size) rest

/-- The text through the first closing braces. -/
def throughClosing (text : List Char) : List Char :=
  match cut closing text with
  | some (inner,_) => inner ++ closing
  | none => text

/-- What a segment stands for in the source: a text for itself, and a placeholder for what the source
has from its offset on, through the first closing braces behind the two opening ones. -/
def piece (source : List Char) : Segment → List Char
  | .text text => text.toList
  | .placeholder placeholder =>
    let rest := fromByte placeholder.offset source
    rest.take 2 ++ throughClosing (rest.drop 2)

/-- What may come next to a segment: after a text neither another text nor, if a brace ends it, a
placeholder. -/
def Adjoins : Segment → Segment → Prop
  | .text _, .text _ => False
  | .text text, .placeholder _ => text.toList.getLast? ≠ some '{'
  | .placeholder _, _ => True

variable {offset : Nat} {text before inside inner after : List Char} {segments : List Segment}
  {placeholder : Placeholder}

theorem fromByte_append (before rest : List Char) :
    fromByte (byteLength before) (before ++ rest) = rest := by
  induction before with
  | nil => exact fromByte.eq_1 rest
  | cons c before ih =>
    obtain ⟨size,positive⟩ := Nat.exists_eq_add_one.mpr c.utf8Size_pos
    have next : byteLength (c::before) = size + byteLength before + 1 := by
      rw [byteLength,positive]
      omega
    have left : size + byteLength before + 1 - c.utf8Size = byteLength before := by omega
    rw [next,List.cons_append,fromByte,left,ih]

theorem piece_placeholder (place : placeholder.offset = byteLength before)
    (closed : FirstAt closing inside inner after) :
    piece (before ++ opening ++ inside) (.placeholder placeholder) = opening ++ inner ++ closing := by
  rw [piece,place,List.append_assoc,fromByte_append]
  simp only [opening,List.cons_append,List.nil_append,List.take_succ_cons,List.take_zero,
    List.drop_succ_cons,List.drop_zero,throughClosing,cut_eq_some_iff.mpr closed]

theorem flatMap_textSegment (source text : List Char) :
    (textSegment text).flatMap (piece source) = text := by
  cases text with
  | nil => rfl
  | cons c rest => simp [textSegment,piece]

theorem placeholder_notMem_textSegment : .placeholder placeholder ∉ textSegment text := by
  cases text <;> simp [textSegment]

theorem eq_of_textSegment_append {front back : List Segment} {other : Placeholder}
    (same : textSegment before ++ .placeholder placeholder::segments =
      front ++ .placeholder other::back) :
    (front = textSegment before ∧ placeholder = other) ∨
      ∃ more, front = textSegment before ++ .placeholder placeholder::more ∧
        segments = more ++ .placeholder other::back := by
  rcases List.append_eq_append_iff.mp same with ⟨more,rfl,rest⟩ | ⟨more,text,rest⟩
  · cases more with
    | nil =>
      cases rest
      exact .inl ⟨List.append_nil _,rfl⟩
    | cons segment more =>
      obtain ⟨rfl,rfl⟩ := List.cons.inj rest
      exact .inr ⟨more,rfl,rfl⟩
  · cases more with
    | nil =>
      cases rest
      exact .inl ⟨by rw [text,List.append_nil],rfl⟩
    | cons segment more =>
      obtain ⟨rfl,-⟩ := List.cons.inj rest
      exact absurd (text ▸ List.mem_append_right _ List.mem_cons_self) placeholder_notMem_textSegment

theorem placeholders_slot (text : List Char) (placeholder : Placeholder) (segments : List Segment) :
    placeholders ⟨textSegment text ++ .placeholder placeholder::segments⟩ =
      placeholder::placeholders ⟨segments⟩ := by
  cases text <;> rfl

theorem getLast?_ne_of_opened (opened : FirstAt opening text before inside) :
    before.getLast? ≠ some '{' := by
  intro ends
  obtain ⟨front,rfl⟩ := List.getLast?_eq_some_iff.mp ends
  have earlier : text = front ++ opening ++ '{'::inside := by
    rw [opened.parts]
    simp only [opening,List.append_assoc,List.cons_append,List.nil_append]
  have bound := opened.first front _ earlier
  rw [List.length_append,List.length_singleton] at bound
  omega

theorem text_of_mem_textSegment {piece : String} (member : .text piece ∈ textSegment text) :
    piece ≠ "" ∧ piece.toList = text := by
  cases text with
  | nil => cases member
  | cons c rest =>
    simp only [textSegment,List.isEmpty_cons,Bool.false_eq_true,if_false,List.mem_singleton,
      Segment.text.injEq] at member
    subst member
    simp

namespace Reading

theorem flatMap_piece (reading : Reading offset text segments) (before more : List Char)
    (place : offset = byteLength before) :
    segments.flatMap (piece (before ++ text ++ more)) = text := by
  induction reading generalizing before with
  | rest _ => exact flatMap_textSegment _ _
  | @slot offset text front inside inner after _ _ segments opened closed _ _ ih =>
    have parts : before ++ text ++ more =
        before ++ front ++ opening ++ (inner ++ closing ++ (after ++ more)) := by
      rw [slot_parts opened closed]
      simp only [List.append_assoc]
    have start : offset + byteLength front = byteLength (before ++ front) := by
      rw [byteLength_append,place]
    have later := ih (before ++ front ++ opening ++ inner ++ closing) (by
      rw [byteLength_slot,start])
    rw [List.flatMap_append,List.flatMap_cons,flatMap_textSegment,parts,
      piece_placeholder start (closed.append (after ++ more))]
    simp only [List.append_assoc] at later ⊢
    rw [later,slot_parts opened closed]
    simp only [List.append_assoc]

theorem split {front back : List Segment} (reading : Reading offset text segments)
    (parts : segments = front ++ .placeholder placeholder::back) :
    ∃ before inner after name system, text = before ++ opening ++ inner ++ closing ++ after ∧
      Reading offset before front ∧ Spells inner name system ∧
      placeholder = ⟨String.ofList name,system.map String.ofList,offset + byteLength before⟩ := by
  induction reading generalizing front with
  | rest _ =>
    exact absurd (parts ▸ List.mem_append_right _ List.mem_cons_self) placeholder_notMem_textSegment
  | @slot offset text before inside inner after name system segments opened closed spelled _ ih =>
    rcases eq_of_textSegment_append parts with ⟨rfl,rfl⟩ | ⟨more,rfl,rest⟩
    · refine ⟨before,inner,after,name,system,slot_parts opened closed,?_,spelled,rfl⟩
      exact .rest (opened.notInfix (List.cons_ne_nil _ _))
    · obtain ⟨earlier,body,behind,word,chosen,shape,sofar,reads,rfl⟩ := ih rest
      refine ⟨before ++ opening ++ inner ++ closing ++ earlier,body,behind,word,chosen,?_,
        .behind opened closed spelled sofar,reads,?_⟩
      · rw [slot_parts opened closed,shape]
        simp only [List.append_assoc]
      · rw [byteLength_append,byteLength_slot]
        simp only [Nat.add_assoc]

theorem offset_le (reading : Reading offset text segments)
    (member : .placeholder placeholder ∈ segments) : offset ≤ placeholder.offset := by
  obtain ⟨front,back,parts⟩ := List.append_of_mem member
  obtain ⟨before,_,_,_,_,_,_,_,rfl⟩ := reading.split parts
  exact Nat.le_add_right _ _

theorem text_of_mem (reading : Reading offset text segments) {piece : String}
    (member : .text piece ∈ segments) : piece ≠ "" ∧ ¬opening <:+: piece.toList := by
  induction reading with
  | rest unopened =>
    obtain ⟨filled,same⟩ := text_of_mem_textSegment member
    exact ⟨filled,same ▸ unopened⟩
  | slot opened _ _ _ ih =>
    rcases List.mem_append.mp member with first | later
    · obtain ⟨filled,same⟩ := text_of_mem_textSegment first
      exact ⟨filled,same ▸ opened.notInfix (List.cons_ne_nil _ _)⟩
    · exact ih (by simpa using later)

theorem adjoins (reading : Reading offset text segments) : segments.IsChain Adjoins := by
  induction reading with
  | @rest _ text _ => cases text <;> simp [textSegment]
  | @slot offset _ before _ _ _ name system segments opened _ _ _ ih =>
    have behind : (Segment.placeholder ⟨String.ofList name,system.map String.ofList,
        offset + byteLength before⟩::segments).IsChain Adjoins :=
      List.isChain_cons.mpr ⟨fun _ _ => trivial,ih⟩
    have ending := getLast?_ne_of_opened opened
    cases before with
    | nil => exact behind
    | cons c rest =>
      refine List.isChain_cons_cons.mpr ⟨?_,behind⟩
      rwa [Adjoins,String.toList_ofList]

theorem ascending (reading : Reading offset text segments) :
    ((placeholders ⟨segments⟩).map (·.offset)).Pairwise (· < ·) := by
  induction reading with
  | @rest _ text _ => cases text <;> simp [textSegment,placeholders]
  | slot _ _ _ later ih =>
    rw [placeholders_slot,List.map_cons]
    refine List.pairwise_cons.mpr ⟨fun place member => ?_,ih⟩
    obtain ⟨placeholder,found,rfl⟩ := List.mem_map.mp member
    have bound := later.offset_le (mem_placeholders.mp found)
    dsimp only
    omega

end Reading

/-- Nothing of a text that is read is lost: the segments stand for pieces of it, and these are the text.
A placeholder's offset is the byte at which its braces stand, and the offsets ascend. A text segment is
not empty and has no opening braces; no other follows it, and a placeholder only if no brace ends it. -/
theorem parse_loses_nothing {source : String} {template : Template}
    (parsed : parse source = .ok template) :
    template.segments.flatMap (piece source.toList) = source.toList ∧
    (∀ front placeholder back, template.segments = front ++ .placeholder placeholder::back →
      ∃ before inner after, source.toList = before ++ opening ++ inner ++ closing ++ after ∧
        before = front.flatMap (piece source.toList) ∧
        placeholder.offset = (String.ofList before).utf8ByteSize ∧
        Spells inner placeholder.name.toList (placeholder.system.map String.toList)) ∧
    (template.placeholders.map (·.offset)).Pairwise (· < ·) ∧
    (∀ text, .text text ∈ template.segments → text ≠ "" ∧ ¬opening <:+: text.toList) ∧
    template.segments.IsChain Adjoins := by
  have reading := reading_of_parse parsed
  have whole := reading.flatMap_piece [] [] rfl
  rw [List.nil_append,List.append_nil] at whole
  refine ⟨whole,fun front placeholder back split => ?_,reading.ascending,
    fun _ => reading.text_of_mem,reading.adjoins⟩
  obtain ⟨before,inner,after,name,system,parts,sofar,spelled,rfl⟩ := reading.split split
  refine ⟨before,inner,after,parts,?_,?_,?_⟩
  · have front := sofar.flatMap_piece [] (opening ++ inner ++ closing ++ after) rfl
    rw [parts]
    simp only [List.nil_append,List.append_assoc] at front ⊢
    exact front.symm
  · rw [Nat.zero_add,utf8ByteSize_ofList]
  · cases system <;> simpa using spelled

theorem parse_loses_no_brace : ∃ source template,
    source = "é\x7b\x7b.a\x7d\x7d\x7b\x7b .b|c \x7d\x7d\x7b \x7b\x7b.d\x7d\x7d\x7d" ∧
    parse source = .ok template ∧
    template.segments.flatMap (piece source.toList) = source.toList ∧
    template.placeholders.map (·.offset) = [2,8,20] ∧ [2,8,20].Pairwise (· < ·) ∧
    template.segments.IsChain Adjoins := by
  have parsed : parse "é\x7b\x7b.a\x7d\x7d\x7b\x7b .b|c \x7d\x7d\x7b \x7b\x7b.d\x7d\x7d\x7d" = .ok
      ⟨[.text "é",.placeholder ⟨"a",none,2⟩,.placeholder ⟨"b",some "c",8⟩,.text "\x7b ",
        .placeholder ⟨"d",none,20⟩,.text "\x7d"]⟩ := by
    rw [parse,segmentsFrom_eq_within (Nat.le_refl _)]
    rfl
  obtain ⟨whole,_,ascending,_,adjoins⟩ := parse_loses_nothing parsed
  exact ⟨_,_,rfl,parsed,whole,rfl,ascending,adjoins⟩

end InformerGen.Template
