import InformerGen.Proofs.Text.Blank
import InformerGen.Proofs.Text.Cut
import InformerGen.Template

/-! Which template texts can be read. A scan meets the first opening braces, passes over the text up to
the next closing ones, and goes on behind them. A text is read just if all braces that the scan meets
are closed and have a placeholder between them. Otherwise the error tells the first that are not. -/
namespace InformerGen.Template

open Text

/-- A name: letters, digits and underscores, at least one of them. -/
def IsName (text : List Char) : Prop := text ≠ [] ∧ ∀ c ∈ text, c.isAlphanum = true ∨ c = '_'

/-- What stands between braces is a placeholder. Without the blanks around it, it is a dot and a name,
and after a bar the naming system if there is one, which is not blank. Blanks may stand around each. -/
inductive Spells : List Char → List Char → Option (List Char) → Prop
  | plain {inner written : List Char} (dotted : trimChars inner = '.'::written)
      (named : IsName (trimChars written)) : Spells inner (trimChars written) none
  | chosen {inner written system : List Char}
      (dotted : trimChars inner = '.'::(written ++ '|'::system))
      (named : IsName (trimChars written)) (filled : trimChars system ≠ []) :
      Spells inner (trimChars written) (some (trimChars system))

/-- What stands between braces is no placeholder, with the fault that this is. -/
inductive Misspells : List Char → TemplateFault → Prop
  | noDot {inner : List Char} (undotted : ∀ written, trimChars inner ≠ '.'::written) :
      Misspells inner (.noDot (String.ofList (trimChars inner)))
  | badName {inner written rest : List Char} (dotted : trimChars inner = '.'::(written ++ rest))
      (unmarked : '|' ∉ written) (ends : rest = [] ∨ ∃ system, rest = '|'::system)
      (unnamed : ¬IsName (trimChars written)) :
      Misspells inner (.badName (String.ofList (trimChars written)))
  | emptySystem {inner written system : List Char}
      (dotted : trimChars inner = '.'::(written ++ '|'::system))
      (named : IsName (trimChars written)) (blank : trimChars system = []) :
      Misspells inner (.emptySystem (String.ofList (trimChars written)))

/-- The text after opening braces has closing ones, and a placeholder before these. -/
def Completes (after : List Char) : Prop :=
  ∃ inner rest name system, FirstAt closing after inner rest ∧ Spells inner name system

/-- The text after opening braces has no closing ones, or no placeholder before these. -/
inductive Breaks : List Char → TemplateFault → Prop
  | unterminated {after : List Char} (unclosed : ¬closing <:+: after) : Breaks after .unterminated
  | misspelled {after inner rest : List Char} {fault : TemplateFault}
      (closed : FirstAt closing after inner rest) (misspells : Misspells inner fault) :
      Breaks after fault

/-- A scan of the text meets opening braces between the two parts. -/
inductive Meets : List Char → List Char → List Char → Prop
  | first {text before after : List Char} (opened : FirstAt opening text before after) :
      Meets text before after
  | later {text front inside inner rest before after : List Char}
      (opened : FirstAt opening text front inside) (closed : FirstAt closing inside inner rest)
      (meets : Meets rest before after) :
      Meets text (front ++ opening ++ inner ++ closing ++ before) after

/-- The text is read as the segments, of which the first begins at the offset. -/
inductive Reading : Nat → List Char → List Segment → Prop
  | rest {offset : Nat} {text : List Char} (unopened : ¬opening <:+: text) :
      Reading offset text (textSegment text)
  | slot {offset : Nat} {text before inside inner after name : List Char}
      {system : Option (List Char)} {segments : List Segment}
      (opened : FirstAt opening text before inside) (closed : FirstAt closing inside inner after)
      (spelled : Spells inner name system)
      (later : Reading (offset + byteLength before + 2 + byteLength inner + 2) after segments) :
      Reading offset text (textSegment before ++ .placeholder ⟨String.ofList name,
        system.map String.ofList,offset + byteLength before⟩::segments)

/-- The text is read up to opening braces that break the rule. -/
inductive Fails : List Char → List Char → List Char → TemplateFault → Prop
  | here {text before after : List Char} {fault : TemplateFault}
      (opened : FirstAt opening text before after) (breaks : Breaks after fault) :
      Fails text before after fault
  | later {text front inside inner rest name before after : List Char}
      {system : Option (List Char)} {fault : TemplateFault}
      (opened : FirstAt opening text front inside) (closed : FirstAt closing inside inner rest)
      (spelled : Spells inner name system) (fails : Fails rest before after fault) :
      Fails text (front ++ opening ++ inner ++ closing ++ before) after fault

variable {offset : Nat} {text before inside inner after rest name : List Char}
  {system : Option (List Char)} {segments : List Segment} {fault : TemplateFault}

theorem slot_parts (opened : FirstAt opening text before inside)
    (closed : FirstAt closing inside inner after) :
    text = before ++ opening ++ inner ++ closing ++ after := by
  rw [opened.parts,closed.parts]
  simp only [List.append_assoc]

theorem isName_iff : IsName text ↔ (text.isEmpty || !text.all isNameChar) = false := by
  simp [IsName,isNameChar]

theorem IsName.unmarked (named : IsName (trimChars text)) : '|' ∉ text := by
  intro member
  obtain ⟨front,back,blank,alsoBlank,parts⟩ := exists_blanks_trimChars text
  have bar : isBlank '|' = false := by decide
  rw [parts,List.mem_append,List.mem_append] at member
  rcases member with (inFront | inName) | inBack
  · rw [blank _ inFront] at bar
    cases bar
  · rcases named.2 _ inName with letter | underscore
    · revert letter
      decide
    · revert underscore
      decide
  · rw [alsoBlank _ inBack] at bar
    cases bar

theorem splitBody_of_unmarked (unmarked : '|' ∉ text) : splitBody text = (trimChars text,none) := by
  rw [splitBody,splitAtFirst_of_unmarked unmarked]

theorem splitBody_append (unmarked : '|' ∉ text) (rest : List Char) :
    splitBody (text ++ '|'::rest) = (trimChars text,some (trimChars rest)) := by
  rw [splitBody,splitAtFirst_append unmarked]

theorem Spells.readPlaceholder_eq (spelled : Spells inner name system) (offset : Nat) :
    readPlaceholder inner offset =
      .ok ⟨String.ofList name,system.map String.ofList,offset⟩ := by
  cases spelled with
  | plain dotted named =>
    rw [readPlaceholder,dotted]
    simp only [splitBody_of_unmarked named.unmarked,isName_iff.mp named]
    rfl
  | chosen dotted named filled =>
    rw [readPlaceholder,dotted]
    simp only [splitBody_append named.unmarked,isName_iff.mp named,Option.some.injEq,filled]
    rfl

theorem Misspells.readPlaceholder_eq (misspells : Misspells inner fault) (offset : Nat) :
    readPlaceholder inner offset = .error fault := by
  cases misspells with
  | noDot undotted =>
    rw [readPlaceholder]
    split
    next body dotted => exact absurd dotted (undotted body)
    next => rfl
  | badName dotted unmarked ends unnamed =>
    rw [isName_iff,Bool.not_eq_false] at unnamed
    rw [readPlaceholder,dotted]
    rcases ends with rfl | ⟨system,rfl⟩
    · simp only [List.append_nil,splitBody_of_unmarked unmarked,unnamed]
      rfl
    · simp only [splitBody_append unmarked,unnamed]
      rfl
  | emptySystem dotted named blank =>
    rw [readPlaceholder,dotted]
    simp only [splitBody_append named.unmarked,isName_iff.mp named,blank]
    rfl

theorem spells_or_misspells (inner : List Char) :
    (∃ name system, Spells inner name system) ∨ ∃ fault, Misspells inner fault := by
  by_cases dotted : ∃ body, trimChars inner = '.'::body
  · obtain ⟨body,dotted⟩ := dotted
    by_cases marked : '|' ∈ body
    · obtain ⟨written,system,rfl,unmarked⟩ := List.eq_append_cons_of_mem marked
      by_cases named : IsName (trimChars written)
      · by_cases blank : trimChars system = []
        · exact .inr ⟨_,.emptySystem dotted named blank⟩
        · exact .inl ⟨_,_,.chosen dotted named blank⟩
      · exact .inr ⟨_,.badName dotted unmarked (.inr ⟨system,rfl⟩) named⟩
    · by_cases named : IsName (trimChars body)
      · exact .inl ⟨_,_,.plain dotted named⟩
      · refine .inr ⟨_,.badName ?_ marked (.inl rfl) named⟩
        rwa [List.append_nil]
  · exact .inr ⟨_,.noDot fun written same => dotted ⟨written,same⟩⟩

theorem Misspells.not_spells (misspells : Misspells inner fault) : ¬Spells inner name system := by
  intro spelled
  have same := (spelled.readPlaceholder_eq 0).symm.trans (misspells.readPlaceholder_eq 0)
  cases same

theorem Breaks.not_completes (breaks : Breaks after fault) : ¬Completes after := by
  rintro ⟨inner,rest,name,system,closed,spelled⟩
  cases breaks with
  | unterminated unclosed => exact unclosed ⟨inner,rest,closed.parts.symm⟩
  | misspelled also misspells =>
    obtain ⟨rfl,rfl⟩ := closed.unique also
    exact misspells.not_spells spelled

theorem completes_or_breaks (after : List Char) : Completes after ∨ ∃ fault, Breaks after fault := by
  cases found : cut closing after with
  | none => exact .inr ⟨_,.unterminated (cut_eq_none_iff.mp found)⟩
  | some parts =>
    have closed := firstAt_of_cut found
    rcases spells_or_misspells parts.1 with ⟨name,system,spelled⟩ | ⟨fault,misspells⟩
    · exact .inl ⟨_,_,name,system,closed,spelled⟩
    · exact .inr ⟨fault,.misspelled closed misspells⟩

theorem segmentsFrom_of_unopened (unopened : ¬opening <:+: text) :
    segmentsFrom offset text = .ok (textSegment text) := by
  rw [segmentsFrom]
  split
  next => rfl
  next opened => exact absurd (cut_eq_none_iff.mpr unopened) (by simp [opened])

theorem byteLength_slot (front inner : List Char) :
    byteLength (front ++ opening ++ inner ++ closing) =
      byteLength front + 2 + byteLength inner + 2 := by
  have braces : byteLength opening = 2 ∧ byteLength closing = 2 := by decide
  simp only [byteLength_append,braces]

theorem segmentsFrom_of_opened (opened : FirstAt opening text before inside) :
    segmentsFrom offset text =
      match cut closing inside with
      | none => .error (.template (offset + byteLength before) .unterminated)
      | some (inner,after) =>
        match readPlaceholder inner (offset + byteLength before) with
        | .error fault => .error (.template (offset + byteLength before) fault)
        | .ok placeholder =>
          (segmentsFrom (offset + byteLength before + 2 + byteLength inner + 2) after).map
            (textSegment before ++ .placeholder placeholder::·) := by
  rw [segmentsFrom]
  split
  next unopened => exact absurd ⟨before,inside,opened.parts.symm⟩ (cut_eq_none_iff.mp unopened)
  next found =>
    obtain ⟨rfl,rfl⟩ := opened.unique (firstAt_of_cut found)
    dsimp only
    split
    next unclosed => rw [unclosed]
    next inner after closed =>
      rw [closed]
      dsimp only
      generalize segmentsFrom _ after = rest
      cases readPlaceholder inner (offset + byteLength before) with
      | error fault => rfl
      | ok placeholder => cases rest <;> rfl

/-- Reading with a bound on the placeholders, by which a given text can be read in a proof. -/
def segmentsWithin : Nat → Nat → List Char → Except GenerationError (List Segment)
  | 0, _, text => .ok (textSegment text)
  | fuel + 1, offset, text =>
    match Text.cut opening text with
    | none => .ok (textSegment text)
    | some (before,inside) =>
      let here := offset + Text.byteLength before
      match Text.cut closing inside with
      | none => .error (.template here .unterminated)
      | some (inner,after) =>
        match readPlaceholder inner here with
        | .error fault => .error (.template here fault)
        | .ok placeholder =>
          match segmentsWithin fuel (here + 2 + Text.byteLength inner + 2) after with
          | .error error => .error error
          | .ok rest => .ok (textSegment before ++ .placeholder placeholder::rest)

theorem segmentsFrom_eq_within {fuel : Nat} {text : List Char} (enough : text.length ≤ fuel)
    (offset : Nat) : segmentsFrom offset text = segmentsWithin fuel offset text := by
  induction fuel generalizing text offset with
  | zero =>
    have empty : text = [] := List.length_eq_zero_iff.mp (Nat.le_zero.mp enough)
    rw [empty,segmentsFrom]
    rfl
  | succ fuel ih =>
    rw [segmentsWithin]
    cases found : cut opening text with
    | none => exact segmentsFrom_of_unopened (cut_eq_none_iff.mp found)
    | some parts =>
      have opened := firstAt_of_cut found
      rw [segmentsFrom_of_opened opened]
      dsimp only
      split
      next => rfl
      next inner after found =>
        have closed := firstAt_of_cut found
        have shorter : after.length ≤ fuel := by
          rw [slot_parts opened closed] at enough
          simp only [opening,List.length_append,List.length_cons] at enough
          omega
        rw [ih shorter]
        generalize segmentsWithin fuel _ after = rest
        cases readPlaceholder inner (offset + byteLength parts.1) with
        | error fault => rfl
        | ok placeholder => cases rest <;> rfl

theorem Reading.segmentsFrom_eq (reading : Reading offset text segments) :
    segmentsFrom offset text = .ok segments := by
  induction reading with
  | rest unopened => exact segmentsFrom_of_unopened unopened
  | slot opened closed spelled _ ih =>
    rw [segmentsFrom_of_opened opened,cut_eq_some_iff.mpr closed]
    simp only [spelled.readPlaceholder_eq,ih]
    rfl

theorem Fails.segmentsFrom_eq (fails : Fails text before after fault) (offset : Nat) :
    segmentsFrom offset text = .error (.template (offset + byteLength before) fault) := by
  induction fails generalizing offset with
  | here opened breaks =>
    rw [segmentsFrom_of_opened opened]
    cases breaks with
    | unterminated unclosed => rw [cut_eq_none_iff.mpr unclosed]
    | misspelled closed misspells =>
      rw [cut_eq_some_iff.mpr closed]
      simp only [misspells.readPlaceholder_eq]
  | later opened closed spelled _ ih =>
    rw [segmentsFrom_of_opened opened,cut_eq_some_iff.mpr closed,byteLength_append,byteLength_slot]
    simp only [spelled.readPlaceholder_eq,ih,Nat.add_assoc]
    rfl

theorem reading_or_fails (offset : Nat) (text : List Char) :
    (∃ segments, Reading offset text segments) ∨
      ∃ before after fault, Fails text before after fault := by
  induction size : text.length using Nat.strong_induction_on generalizing offset text with
  | _ size ih =>
  subst size
  cases found : cut opening text with
  | none => exact .inl ⟨_,.rest (cut_eq_none_iff.mp found)⟩
  | some parts =>
    have opened := firstAt_of_cut found
    rcases completes_or_breaks parts.2 with ⟨inner,rest,name,system,closed,spelled⟩ | ⟨fault,breaks⟩
    · have shorter : rest.length < text.length := by
        rw [slot_parts opened closed]
        simp only [opening,List.length_append,List.length_cons]
        omega
      rcases ih rest.length shorter (offset + byteLength parts.1 + 2 + byteLength inner + 2) rest
        rfl with ⟨segments,later⟩ | ⟨before,after,fault,fails⟩
      · exact .inl ⟨_,.slot opened closed spelled later⟩
      · exact .inr ⟨_,_,fault,.later opened closed spelled fails⟩
    · exact .inr ⟨_,_,fault,.here opened breaks⟩

variable {front : List Char}

theorem Meets.parts (meets : Meets text before after) : text = before ++ opening ++ after := by
  induction meets with
  | first opened => exact opened.parts
  | later opened closed _ ih =>
    rw [slot_parts opened closed,ih]
    simp only [List.append_assoc]

theorem Meets.first_or_later (meets : Meets text front rest)
    (opened : FirstAt opening text before inside) : front = before ∧ rest = inside ∨
      ∃ inner after more, FirstAt closing inside inner after ∧ Meets after more rest ∧
        front = before ++ opening ++ inner ++ closing ++ more := by
  cases meets with
  | first also => exact .inl (also.unique opened)
  | later also closed meets =>
    obtain ⟨rfl,rfl⟩ := also.unique opened
    exact .inr ⟨_,_,_,closed,meets,rfl⟩

theorem Reading.completes (reading : Reading offset text segments) (meets : Meets text before after) :
    Completes after := by
  induction reading generalizing before with
  | rest unopened => exact absurd ⟨before,after,meets.parts.symm⟩ unopened
  | slot opened closed spelled _ ih =>
    rcases meets.first_or_later opened with ⟨rfl,rfl⟩ | ⟨_,_,_,ended,later,rfl⟩
    · exact ⟨_,_,_,_,closed,spelled⟩
    · obtain ⟨rfl,rfl⟩ := closed.unique ended
      exact ih later

theorem Reading.behind (opened : FirstAt opening text before inside)
    (closed : FirstAt closing inside inner after) (spelled : Spells inner name system)
    (later : Reading (offset + byteLength before + 2 + byteLength inner + 2) rest segments) :
    Reading offset (before ++ opening ++ inner ++ closing ++ rest) (textSegment before ++
      .placeholder ⟨String.ofList name,system.map String.ofList,offset + byteLength before⟩::
        segments) := by
  have parts : before ++ opening ++ inner ++ closing ++ rest =
      before ++ opening ++ (inner ++ closing ++ rest) := by simp only [List.append_assoc]
  rw [parts]
  exact .slot (opened.append _) (closed.append rest) spelled later

namespace Fails

theorem meets (fails : Fails text before after fault) : Meets text before after := by
  induction fails with
  | here opened _ => exact .first opened
  | later opened closed _ _ ih => exact .later opened closed ih

theorem breaks (fails : Fails text before after fault) : Breaks after fault := by
  induction fails with
  | here _ breaks => exact breaks
  | later _ _ _ _ ih => exact ih

theorem completes_earlier (fails : Fails text before after fault) (meets : Meets text front rest)
    (earlier : front.length < before.length) : Completes rest := by
  induction fails generalizing front with
  | here opened _ =>
    rcases meets.first_or_later opened with ⟨rfl,rfl⟩ | ⟨_,_,_,_,_,rfl⟩
    · exact absurd earlier (Nat.lt_irrefl _)
    · simp only [List.length_append] at earlier
      omega
  | later opened closed spelled _ ih =>
    rcases meets.first_or_later opened with ⟨rfl,rfl⟩ | ⟨_,_,_,ended,meets,rfl⟩
    · exact ⟨_,_,_,_,closed,spelled⟩
    · obtain ⟨rfl,rfl⟩ := closed.unique ended
      simp only [List.length_append] at earlier
      exact ih meets (by omega)

theorem reading (fails : Fails text before after fault) (offset : Nat) :
    ∃ segments, Reading offset before segments := by
  induction fails generalizing offset with
  | here opened _ => exact ⟨_,.rest (opened.notInfix (List.cons_ne_nil _ _))⟩
  | @later _ front _ inner _ _ _ _ _ _ opened closed spelled _ ih =>
    obtain ⟨segments,later⟩ := ih (offset + byteLength front + 2 + byteLength inner + 2)
    exact ⟨_,.behind opened closed spelled later⟩

end Fails

theorem reading_of_parse {source : String} {template : Template}
    (parsed : parse source = .ok template) : Reading 0 source.toList template.segments := by
  rw [parse] at parsed
  rcases reading_or_fails 0 source.toList with ⟨segments,reading⟩ | ⟨before,after,fault,fails⟩
  · rw [reading.segmentsFrom_eq] at parsed
    cases parsed
    exact reading
  · rw [fails.segmentsFrom_eq] at parsed
    cases parsed

theorem parse_ok_iff {source : String} :
    (∃ template, parse source = .ok template) ↔ ∃ segments, Reading 0 source.toList segments := by
  constructor
  · rintro ⟨template,parsed⟩
    exact ⟨_,reading_of_parse parsed⟩
  · rintro ⟨segments,reading⟩
    rw [parse,reading.segmentsFrom_eq]
    exact ⟨⟨segments⟩,rfl⟩

/-- A text is read just if behind all opening braces that a scan meets there is a placeholder with its
closing braces. Otherwise the error tells the byte at which the first others stand, and what is wrong
with them; the text before them can be read. -/
theorem parse_ok_or_first_fault (source : String) :
    ((∃ template, parse source = .ok template) ↔
      ∀ before after, Meets source.toList before after → Completes after) ∧
    ∀ error, parse source = .error error → ∃ before after fault,
      error = .template (String.ofList before).utf8ByteSize fault ∧
      source.toList = before ++ opening ++ after ∧ Meets source.toList before after ∧
      Breaks after fault ∧ ¬Completes after ∧
      (∀ front rest, Meets source.toList front rest → front.length < before.length →
        Completes rest) ∧
      ∃ template, parse (String.ofList before) = .ok template := by
  refine ⟨?_,fun error refused => ?_⟩
  · rw [parse_ok_iff]
    constructor
    · rintro ⟨segments,reading⟩ before after meets
      exact reading.completes meets
    · intro complete
      rcases reading_or_fails 0 source.toList with reading | ⟨before,after,fault,fails⟩
      · exact reading
      · exact absurd (complete before after fails.meets) fails.breaks.not_completes
  · rcases reading_or_fails 0 source.toList with ⟨segments,reading⟩ | ⟨before,after,fault,fails⟩
    · rw [parse,reading.segmentsFrom_eq] at refused
      cases refused
    · rw [parse,fails.segmentsFrom_eq,Nat.zero_add,← utf8ByteSize_ofList] at refused
      have readable : ∃ template, parse (String.ofList before) = .ok template := by
        rw [parse_ok_iff,String.toList_ofList]
        exact fails.reading 0
      cases refused
      exact ⟨before,after,fault,rfl,fails.meets.parts,fails.meets,fails.breaks,
        fails.breaks.not_completes,fun front rest => fails.completes_earlier,readable⟩

theorem parse_read_and_unread :
    (parse "é\x7b\x7b.a|b\x7d\x7d\x7b\x7b.c\x7d\x7d" =
        .ok ⟨[.text "é",.placeholder ⟨"a",some "b",2⟩,.placeholder ⟨"c",none,10⟩]⟩ ∧
      ∀ before after, Meets "é\x7b\x7b.a|b\x7d\x7d\x7b\x7b.c\x7d\x7d".toList before after →
        Completes after) ∧
    parse "é\x7b\x7b.a\x7d\x7d \x7b\x7b .b | \x7d\x7d\x7b\x7b" =
      .error (.template 9 (.emptySystem "b")) ∧
    ∃ before after, (String.ofList before).utf8ByteSize = 9 ∧
      "é\x7b\x7b.a\x7d\x7d \x7b\x7b .b | \x7d\x7d\x7b\x7b".toList = before ++ opening ++ after ∧
      Breaks after (.emptySystem "b") ∧ ∃ template, parse (String.ofList before) = .ok template := by
  have readable : parse "é\x7b\x7b.a|b\x7d\x7d\x7b\x7b.c\x7d\x7d" =
      .ok ⟨[.text "é",.placeholder ⟨"a",some "b",2⟩,.placeholder ⟨"c",none,10⟩]⟩ := by
    rw [parse,segmentsFrom_eq_within (Nat.le_refl _)]
    rfl
  have refused : parse "é\x7b\x7b.a\x7d\x7d \x7b\x7b .b | \x7d\x7d\x7b\x7b" =
      .error (.template 9 (.emptySystem "b")) := by
    rw [parse,segmentsFrom_eq_within (Nat.le_refl _)]
    rfl
  refine ⟨⟨readable,(parse_ok_or_first_fault _).1.mp ⟨_,readable⟩⟩,refused,?_⟩
  obtain ⟨before,after,fault,same,parts,_,breaks,_,_,template⟩ :=
    (parse_ok_or_first_fault _).2 _ refused
  obtain ⟨place,rfl⟩ := GenerationError.template.inj same
  exact ⟨before,after,place.symm,parts,breaks,template⟩

end InformerGen.Template
