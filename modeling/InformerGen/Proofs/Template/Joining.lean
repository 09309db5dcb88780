import InformerGen.Proofs.Template.Rendering

/-! One template text behind another. Unless they meet in two braces, the scan finds in both together
what it finds in each: a placeholder that was closed stays closed there, and no braces are opened on the
seam. Only a text that ends the first template and one that begins the second become one segment, and
that is not seen in what is rendered. -/
namespace InformerGen

/-- The placeholder in a source that has so many bytes more before it. -/
def Placeholder.shift (bytes : Nat) (placeholder : Placeholder) : Placeholder :=
  { placeholder with offset := bytes + placeholder.offset }

def Segment.shift (bytes : Nat) : Segment → Segment
  | text written => .text written
  | placeholder moved => .placeholder (moved.shift bytes)

namespace Template

open Text

/-- The segments of one text behind those of another. -/
inductive Joins : List Segment → List Segment → List Segment → Prop
  | apart (front back : List Segment) : Joins front back (front ++ back)
  | merged (front : List Segment) (one other : String) (back : List Segment) :
      Joins (front ++ [.text one]) (.text other::back) (front ++ .text (one ++ other)::back)

variable {offset : Nat} {text more : List Char} {segments others joined : List Segment}
  {context : TemplateContext} {systems : NameSystems} {resolver : Resolver}

theorem Joins.behind (front : List Segment) (joins : Joins segments others joined) :
    Joins (front ++ segments) others (front ++ joined) := by
  cases joins with
  | apart =>
    rw [← List.append_assoc]
    exact .apart _ _
  | merged =>
    rw [← List.append_assoc,← List.append_assoc]
    exact .merged _ _ _ _

theorem joins_textSegment (text more : List Char) (back : List Segment) :
    Joins (textSegment text) (textSegment more ++ back) (textSegment (text ++ more) ++ back) := by
  cases text with
  | nil => exact .apart [] _
  | cons c text =>
    cases more with
    | nil =>
      rw [List.append_nil]
      exact .apart _ back
    | cons d more =>
      have joined : textSegment (c::text ++ d::more) =
          [] ++ [.text (String.ofList (c::text) ++ String.ofList (d::more))] := by
        rw [← String.ofList_append]
        rfl
      rw [joined]
      exact .merged [] _ _ back

theorem Reading.shift (reading : Reading offset text segments) (bytes : Nat) :
    Reading (bytes + offset) text (segments.map (Segment.shift bytes)) := by
  have unmoved (text : List Char) :
      (textSegment text).map (Segment.shift bytes) = textSegment text := by
    cases text <;> rfl
  induction reading with
  | rest unopened =>
    rw [unmoved]
    exact .rest unopened
  | slot opened closed spelled _ ih =>
    rw [List.map_append,unmoved,List.map_cons]
    simp only [Segment.shift,Placeholder.shift,← Nat.add_assoc] at ih ⊢
    exact .slot opened closed spelled ih

theorem Reading.append (first : Reading offset text segments)
    (second : Reading (offset + byteLength text) more others)
    (apart : text.getLast? ≠ some '{' ∨ more.head? ≠ some '{') :
    ∃ joined, Reading offset (text ++ more) joined ∧ Joins segments others joined := by
  induction first with
  | @rest offset text unopened =>
    -- The seam lies in what is unread of the first text, so all depends on how the second begins.
    cases second with
    | rest alsoUnopened =>
      refine ⟨textSegment (text ++ more),.rest (notInfix_append unopened alsoUnopened apart),?_⟩
      simpa using joins_textSegment text more []
    | @slot _ _ before _ _ _ _ _ _ opened closed spelled later =>
      have place : offset + byteLength text + byteLength before =
          offset + byteLength (text ++ before) := by rw [byteLength_append,Nat.add_assoc]
      rw [place] at later ⊢
      exact ⟨_,.slot (opened.behind unopened apart) closed spelled later,
        joins_textSegment text before _⟩
  | @slot offset text before inside inner after name system segments opened closed spelled _ ih =>
    have parts := slot_parts opened closed
    have place : offset + byteLength text =
        offset + byteLength before + 2 + byteLength inner + 2 + byteLength after := by
      rw [parts,byteLength_append,byteLength_slot]
      simp only [Nat.add_assoc]
    have alsoApart : after.getLast? ≠ some '{' ∨ more.head? ≠ some '{' := by
      refine apart.imp_left fun ends closes => ends ?_
      rw [parts,List.getLast?_append,closes]
      rfl
    rw [place] at second
    obtain ⟨joined,reading,joins⟩ := ih second alsoApart
    refine ⟨_,?_,(joins.behind [_]).behind (textSegment before)⟩
    rw [parts,List.append_assoc _ after]
    exact .behind opened closed spelled reading

theorem placeholders_append (front back : List Segment) :
    placeholders ⟨front ++ back⟩ = placeholders ⟨front⟩ ++ placeholders ⟨back⟩ :=
  List.filterMap_append

theorem Joins.placeholders_eq (joins : Joins segments others joined) :
    placeholders ⟨joined⟩ = placeholders ⟨segments⟩ ++ placeholders ⟨others⟩ := by
  cases joins with
  | apart => exact placeholders_append _ _
  | merged =>
    rw [placeholders_append,placeholders_append,List.append_assoc]
    rfl

theorem placeholders_shift (bytes : Nat) (segments : List Segment) :
    placeholders ⟨segments.map (Segment.shift bytes)⟩ =
      (placeholders ⟨segments⟩).map (Placeholder.shift bytes) := by
  rw [placeholders,placeholders,List.filterMap_map,List.map_filterMap]
  congr 1
  funext segment
  cases segment <;> rfl

theorem renderSegments_append (front back : List Segment) :
    renderSegments context systems resolver (front ++ back) = do
      let one ← renderSegments context systems resolver front
      let other ← renderSegments context systems resolver back
      return one ++ other := by
  induction front with
  | nil => simp only [List.nil_append,renderSegments,pure_bind,String.empty_append,bind_pure]
  | cons segment rest ih =>
    simp only [List.cons_append,renderSegments,ih,bind_assoc,pure_bind,String.append_assoc]

theorem Joins.renderSegments_eq (joins : Joins segments others joined) :
    renderSegments context systems resolver joined = do
      let one ← renderSegments context systems resolver segments
      let other ← renderSegments context systems resolver others
      return one ++ other := by
  cases joins with
  | apart => exact renderSegments_append _ _
  | merged =>
    rw [renderSegments_append,renderSegments_append]
    simp only [renderSegments,renderSegment,bind_assoc,pure_bind,String.append_assoc,
      String.append_empty]

theorem renderSegments_shift (bytes : Nat) (segments : List Segment) :
    renderSegments context systems resolver (segments.map (Segment.shift bytes)) =
      renderSegments context systems resolver segments := by
  have unmoved (segment : Segment) : renderSegment context systems resolver (segment.shift bytes) =
      renderSegment context systems resolver segment := by
    cases segment with
    | text text => rfl
    | placeholder placeholder =>
      simp only [Segment.shift,renderSegment,Placeholder.shift]
      cases context.get? placeholder.name with
      | none => rfl
      | some value => cases value <;> rfl
  induction segments with
  | nil => rfl
  | cons segment rest ih => rw [List.map_cons,renderSegments,renderSegments,unmoved,ih]

theorem render_eq_ok_iff {template : Template} {trail after : Trail} {written : String} :
    template.render context systems resolver trail = (.ok written,after) ↔
      template.Bound context ∧
        renderSegments context systems resolver template.segments trail = (.ok written,after) := by
  by_cases bound : template.Bound context
  · rw [render_of_bound bound]
    exact (and_iff_right bound).symm
  · obtain ⟨_,_,_,_,_,_,failed⟩ := @render_of_unbound context systems resolver template bound
    rw [failed]
    refine iff_of_false ?_ fun both => bound both.1
    intro done
    cases done

theorem bound_append_iff {whole first second : Template} {bytes : Nat}
    (same : whole.placeholders = first.placeholders ++ second.placeholders.map (.shift bytes)) :
    whole.Bound context ↔ first.Bound context ∧ second.Bound context := by
  have moved : (∀ placeholder ∈ second.placeholders.map (Placeholder.shift bytes),
      context.get? placeholder.name ≠ none) ↔ second.Bound context := List.forall_mem_map
  rw [Bound,same,List.forall_mem_append,moved]
  rfl

/-- Of two texts that are templates, the one behind the other is a template too, unless they meet in two
braces. It has the placeholders of both, those of the second at their places behind the first. To
render it is to render the first and then the second with the same resolver. -/
theorem parse_append {first second : String} {one other : Template}
    (parsed : parse first = .ok one) (alsoParsed : parse second = .ok other)
    (apart : first.toList.getLast? ≠ some '{' ∨ second.toList.head? ≠ some '{') :
    ∃ whole, parse (first ++ second) = .ok whole ∧
      whole.placeholders = one.placeholders ++
        other.placeholders.map (.shift first.utf8ByteSize) ∧
      ∀ context systems resolver trail written after,
        whole.render context systems resolver trail = (.ok written,after) ↔
          ∃ front middle back, one.render context systems resolver trail = (.ok front,middle) ∧
            other.render context systems resolver middle = (.ok back,after) ∧
            written = front ++ back := by
  have size : first.utf8ByteSize = byteLength first.toList := by
    rw [← utf8ByteSize_ofList,String.ofList_toList]
  have later := (reading_of_parse alsoParsed).shift first.utf8ByteSize
  rw [Nat.add_zero,size,← Nat.zero_add (byteLength _)] at later
  obtain ⟨joined,reading,joins⟩ := (reading_of_parse parsed).append later apart
  rw [Nat.zero_add,← size] at joins
  have listed : placeholders ⟨joined⟩ =
      one.placeholders ++ other.placeholders.map (.shift first.utf8ByteSize) := by
    rw [joins.placeholders_eq,placeholders_shift]
  refine ⟨⟨joined⟩,?_,listed,?_⟩
  · rw [parse,String.toList_append,reading.segmentsFrom_eq]
    rfl
  · intro context systems resolver trail written after
    rw [render_eq_ok_iff,bound_append_iff listed,joins.renderSegments_eq,renderSegments_shift,
      Recording.bind_eq_ok_iff]
    constructor
    · intro whole
      obtain ⟨⟨bound,alsoBound⟩,front,middle,begun,rest⟩ := whole
      obtain ⟨back,_,ended,both⟩ := Recording.bind_eq_ok_iff.mp rest
      cases both
      exact ⟨front,middle,back,render_eq_ok_iff.mpr ⟨bound,begun⟩,
        render_eq_ok_iff.mpr ⟨alsoBound,ended⟩,rfl⟩
    · intro both
      obtain ⟨front,middle,back,begun,ended,rfl⟩ := both
      obtain ⟨bound,start⟩ := render_eq_ok_iff.mp begun
      obtain ⟨alsoBound,rest⟩ := render_eq_ok_iff.mp ended
      exact ⟨⟨bound,alsoBound⟩,front,middle,start,Recording.bind_of_ok rest⟩

/-- Two texts that meet in an opening and a closing brace, with an import in the second. -/
theorem rendered_over_braces :
    let gear := TypeDescriptor.plain "api/v1" "Gear"
    let resolver := Resolver.mk (.ofPackages [(Package.bare "api/v1").declareType gear]) "out"
      (.build ["api/v1"] [])
    let context : TemplateContext := .ofList [("a",.literal "A"),("t",.type gear)]
    let systems := NameSystems.ofTables .standard
    let one : Template := ⟨[.text "é",.placeholder ⟨"a",none,2⟩,.text "\x7b"]⟩
    let other : Template := ⟨[.text "\x7d",.placeholder ⟨"t",some "raw",1⟩]⟩
    parse "é\x7b\x7b.a\x7d\x7d\x7b" = .ok one ∧ parse "\x7d\x7b\x7b.t|raw\x7d\x7d" = .ok other ∧
    ∃ whole, parse ("é\x7b\x7b.a\x7d\x7d\x7b" ++ "\x7d\x7b\x7b.t|raw\x7d\x7d") = .ok whole ∧
      whole.placeholders = [⟨"a",none,2⟩,⟨"t",some "raw",10⟩] ∧
      ∃ after, other.render context systems resolver .empty = (.ok "\x7dv1.Gear",after) ∧
        whole.render context systems resolver .empty = (.ok "éA\x7b\x7dv1.Gear",after) := by
  intro gear resolver context systems one other
  have parsed : parse "é\x7b\x7b.a\x7d\x7d\x7b" = .ok one := by
    rw [parse,segmentsFrom_eq_within (Nat.le_refl _)]
    rfl
  have alsoParsed : parse "\x7d\x7b\x7b.t|raw\x7d\x7d" = .ok other := by
    rw [parse,segmentsFrom_eq_within (Nat.le_refl _)]
    rfl
  have begun : one.render context systems resolver .empty = (.ok "éA\x7b",.empty) := by decide +kernel
  have ended : (other.render context systems resolver .empty).1 = .ok "\x7dv1.Gear" := by
    decide +kernel
  obtain ⟨after,done⟩ : ∃ after,
      other.render context systems resolver .empty = (.ok "\x7dv1.Gear",after) :=
    ⟨_,Prod.ext ended rfl⟩
  obtain ⟨whole,joined,placeholders,renders⟩ := parse_append parsed alsoParsed (.inr (by decide))
  refine ⟨parsed,alsoParsed,whole,joined,placeholders.trans ?_,after,done,?_⟩
  · decide +kernel
  · exact (renders _ _ _ _ _ _).mpr ⟨_,_,_,begun,done,rfl⟩

end Template

end InformerGen
