import InformerGen.Text.Case
import InformerGen.Text.Letter
import Mathlib.Data.List.Sort

/-! Lower case keeps letters letters and leaves everything else as it is. The table is made of runs
that lead from letters to letters, and no run leads to where another one begins, so a text that is in
lower case stays so. Only the dotted capital I becomes two characters, a letter and a dot. -/
namespace InformerGen.Text

/-- Each of the spans lies in one of the ranges. Both have to go up for this to be found out, since they
are gone through once. -/
def within : List (Nat × Nat) → List (Nat × Nat) → Bool
  | _,[] => true
  | [],_::_ => false
  | range::ranges,span::spans =>
    within ranges ((span::spans).dropWhile fun other =>
      range.1.ble other.1 && other.2.ble range.2)

theorem exists_of_within {ranges spans : List (Nat × Nat)} (all : within ranges spans = true)
    {span : Nat × Nat} (member : span ∈ spans) :
    ∃ range ∈ ranges, range.1 ≤ span.1 ∧ span.2 ≤ range.2 := by
  induction ranges generalizing spans with
  | nil =>
    cases spans with
    | nil => cases member
    | cons first spans => cases all
  | cons range ranges ih =>
    cases spans with
    | nil => cases member
    | cons first spans =>
      rw [within] at all
      generalize inside : (fun other : Nat × Nat =>
        range.1.ble other.1 && other.2.ble range.2) = inRange at all
      rw [← @List.takeWhile_append_dropWhile _ inRange (first::spans),List.mem_append] at member
      rcases member with taken | dropped
      · have bounds := List.all_eq_true.mp List.all_takeWhile _ taken
        rw [← inside,Bool.and_eq_true,Nat.ble_eq,Nat.ble_eq] at bounds
        exact ⟨range,List.mem_cons_self,bounds⟩
      · obtain ⟨other,listed,bounds⟩ := ih all dropped
        exact ⟨other,List.mem_cons_of_mem range listed,bounds⟩

def ascending (next : Nat) : List (Nat × Nat) → Bool
  | [] => true
  | span::spans => next.ble span.1 && span.1.ble span.2 && ascending (span.2+1) spans

/-- What is left between the spans, and after them. -/
def gaps (next : Nat) : List (Nat × Nat) → List (Nat × Nat)
  | [] => [(next,0x10FFFF)]
  | span::spans => (next,span.1-1)::gaps (span.2+1) spans

theorem ascending_bounds {next : Nat} {spans : List (Nat × Nat)}
    (goesUp : ascending next spans = true) :
    (∀ span ∈ spans, next ≤ span.1) ∧ ∀ gap ∈ gaps next spans, next ≤ gap.1 := by
  induction spans generalizing next with
  | nil => simp [gaps]
  | cons span spans ih =>
    simp only [ascending,Bool.and_eq_true,Nat.ble_eq] at goesUp
    obtain ⟨⟨above,ordered⟩,rest⟩ := goesUp
    obtain ⟨later,laterGaps⟩ := ih rest
    rw [gaps,List.forall_mem_cons,List.forall_mem_cons]
    refine ⟨⟨above,fun other member => ?_⟩,Nat.le_refl next,fun gap member => ?_⟩
    · have bound := later other member
      omega
    · have bound := laterGaps gap member
      omega

theorem apart_of_mem_gaps {next : Nat} (positive : 0 < next) {spans : List (Nat × Nat)}
    (goesUp : ascending next spans = true) {gap : Nat × Nat} (member : gap ∈ gaps next spans) :
    ∀ span ∈ spans, gap.2 < span.1 ∨ span.2 < gap.1 := by
  induction spans generalizing next with
  | nil => exact List.forall_mem_nil _
  | cons first spans ih =>
    simp only [ascending,Bool.and_eq_true,Nat.ble_eq] at goesUp
    obtain ⟨⟨above,ordered⟩,rest⟩ := goesUp
    obtain ⟨later,laterGaps⟩ := ascending_bounds rest
    rw [List.forall_mem_cons]
    rcases List.mem_cons.mp member with rfl | further
    · refine ⟨.inl (by dsimp only; omega),fun span listed => .inl ?_⟩
      have bound := later span listed
      dsimp only
      omega
    · have bound := laterGaps gap further
      exact ⟨.inr (by omega),ih (Nat.succ_pos _) rest further⟩

theorem apart_of_within_gaps {obstacles spans : List (Nat × Nat)}
    (goesUp : ascending 1 obstacles = true) (all : within (gaps 1 obstacles) spans = true) :
    ∀ span ∈ spans, ∀ obstacle ∈ obstacles, span.2 < obstacle.1 ∨ obstacle.2 < span.1 := by
  intro span member obstacle listed
  obtain ⟨gap,between,start,stop⟩ := exists_of_within all member
  have apart := apart_of_mem_gaps Nat.one_pos goesUp between obstacle listed
  omega

namespace CaseRun

variable {run : CaseRun} {point image : Nat}

theorem image?_eq_some_iff : run.image? point = some image ↔
    run.first ≤ point ∧ point ≤ run.last ∧ (point - run.first) % run.step = 0 ∧
      image = run.target + (point - run.first) := by
  simp [image?,and_assoc,eq_comm (a := image)]

/-- The numbers as far from `start` as the points of the run are from its first one. -/
def spansFrom (run : CaseRun) (start : Nat) : List (Nat × Nat) :=
  if run.step.beq 1 then [(start,start + (run.last - run.first))]
  else (List.range ((run.last - run.first) / run.step + 1)).map fun place =>
    (start + run.step * place,start + run.step * place)

theorem exists_span (found : run.image? point = some image) (start : Nat) :
    ∃ span ∈ run.spansFrom start,
      span.1 ≤ start + (point - run.first) ∧ start + (point - run.first) ≤ span.2 := by
  obtain ⟨above,below,even,_⟩ := image?_eq_some_iff.mp found
  unfold spansFrom
  split
  next => exact ⟨_,List.mem_singleton_self _,by dsimp only; omega,by dsimp only; omega⟩
  next =>
    have place : (point - run.first) / run.step < (run.last - run.first) / run.step + 1 :=
      Nat.lt_succ_of_le (Nat.div_le_div_right (by omega))
    have whole := Nat.div_add_mod (point - run.first) run.step
    refine ⟨_,List.mem_map.mpr ⟨_,List.mem_range.mpr place,rfl⟩,?_⟩
    dsimp only
    omega

end CaseRun

/-- The code points whose lower case is another one. -/
def lowerSources : List (Nat × Nat) := lowerRuns.flatMap fun run => run.spansFrom run.first

/-- Their lower case, in the order of the code points. -/
def lowerImages : List (Nat × Nat) :=
  (lowerRuns.insertionSort fun run other => run.target ≤ other.target).flatMap fun run =>
    run.spansFrom run.target

section

variable {run : CaseRun} (member : run ∈ lowerRuns) {point image : Nat}
  (found : run.image? point = some image)
include member found

theorem exists_source : ∃ span ∈ lowerSources, span.1 ≤ point ∧ point ≤ span.2 := by
  obtain ⟨span,listed,bounds⟩ := CaseRun.exists_span found run.first
  obtain ⟨above,_⟩ := CaseRun.image?_eq_some_iff.mp found
  exact ⟨span,List.mem_flatMap.mpr ⟨run,member,listed⟩,by omega,by omega⟩

theorem exists_image : ∃ span ∈ lowerImages, span.1 ≤ image ∧ image ≤ span.2 := by
  obtain ⟨span,listed,bounds⟩ := CaseRun.exists_span found run.target
  obtain ⟨_,_,_,rfl⟩ := CaseRun.image?_eq_some_iff.mp found
  exact ⟨span,List.mem_flatMap.mpr ⟨run,(List.mem_insertionSort _).mpr member,listed⟩,bounds⟩

end

/-- The images are letters, but for the small k that the Kelvin sign leads to, and none of them is moved
on, neither by a run nor by the special entry. -/
theorem lower_spans : ascending 1 lowerSources = true ∧
    within letterRanges lowerSources = true ∧
    within (('k'.toNat,'k'.toNat)::letterRanges) lowerImages = true ∧
    within (gaps 1 lowerSources) lowerImages = true ∧
    within (gaps 1 [('İ'.toNat,'İ'.toNat)]) lowerImages = true := by
  decide +kernel

theorem letterRanges_valid : ∀ range ∈ letterRanges,
    0x80 ≤ range.1 ∧ (range.2 < 0xD800 ∨ 0xE000 ≤ range.1 ∧ range.2 < 0x110000) := by
  decide +kernel

def lowerPoint (point : Nat) : Nat := (lowerRuns.findSome? (·.image? point)).getD point

theorem lowerPoint_cases (point : Nat) : lowerPoint point = point ∨
    covers letterRanges point = true ∧
      (covers letterRanges (lowerPoint point) = true ∨ lowerPoint point = 'k'.toNat) ∧
      lowerPoint point ≠ 'İ'.toNat ∧ lowerPoint (lowerPoint point) = lowerPoint point := by
  cases found : lowerRuns.findSome? (·.image? point) with
  | none => exact .inl (by rw [lowerPoint,found,Option.getD_none])
  | some image =>
    obtain ⟨run,member,reached⟩ := List.exists_of_findSome?_eq_some found
    obtain ⟨source,sourceListed,sourceBounds⟩ := exists_source member reached
    obtain ⟨span,listed,bounds⟩ := exists_image member reached
    obtain ⟨goesUp,fromLetters,toLetters,settled,undotted⟩ := lower_spans
    have led : lowerPoint point = image := by rw [lowerPoint,found,Option.getD_some]
    right
    rw [led]
    refine ⟨?_,?_,?_,?_⟩
    · obtain ⟨range,letter,start,stop⟩ := exists_of_within fromLetters sourceListed
      exact (covers_iff _ _).mpr ⟨range,letter,by omega,by omega⟩
    · obtain ⟨range,letter,start,stop⟩ := exists_of_within toLetters listed
      rcases List.mem_cons.mp letter with rfl | letter
      · exact .inr (by dsimp only at start stop; omega)
      · exact .inl ((covers_iff _ _).mpr ⟨range,letter,by omega,by omega⟩)
    · have apart := apart_of_within_gaps (by decide) undotted span listed _
        (List.mem_singleton_self _)
      dsimp only at apart
      omega
    · have rests : lowerRuns.findSome? (·.image? image) = none := by
        rw [List.findSome?_eq_none_iff]
        intro other otherMember
        rw [Option.eq_none_iff_forall_ne_some]
        intro further again
        obtain ⟨next,nextListed,nextBounds⟩ := exists_source otherMember again
        have apart := apart_of_within_gaps goesUp settled span listed next nextListed
        omega
      rw [lowerPoint,rests,Option.getD_none]

theorem toNat_ofNat_of_covers {point : Nat} (letter : covers letterRanges point = true) :
    (Char.ofNat point).toNat = point ∧ 0x80 ≤ point := by
  obtain ⟨range,member,above,below⟩ := (covers_iff _ _).mp letter
  obtain ⟨high,bounds⟩ := letterRanges_valid range member
  have valid : point.isValidChar := by
    rcases bounds with low | ⟨past,bounded⟩
    · exact .inl (by omega)
    · exact .inr ⟨by omega,by omega⟩
  refine ⟨?_,by omega⟩
  rw [Char.ofNat,dif_pos valid]
  rfl

theorem lowerChar_of_high {c : Char} (high : 0x80 ≤ c.toNat) (plain : c ≠ 'İ') :
    lowerChar c = [Char.ofNat (lowerPoint c.toNat)] := by
  have apart : c.toNat ≠ 0x130 := fun same => plain (Char.toNat_inj.mp same)
  have unlisted : lowerSpecials.lookup c.toNat = none := by
    simp [lowerSpecials,List.lookup_cons,beq_eq_false_iff_ne.mpr apart]
  rw [lowerChar,if_neg (by omega),mapCase,unlisted]
  rfl

inductive Lowers : Char → List Char → Prop
  | dotted : Lowers 'İ' ['i','\u0307']
  | single {c d : Char} (plain : c ≠ 'İ') (settled : lowerChar d = [d])
      (kind : isLetter d = isLetter c) (kept : isLetter c = false → d = c) : Lowers c [d]

@[elab_as_elim]
theorem of_low {motive : Char → Prop} (c : Char) (low : c.toNat < 0x80)
    (all : ∀ point < 0x80, motive (Char.ofNat point)) : motive c := by
  have holds := all c.toNat low
  rwa [Char.ofNat_toNat] at holds

theorem low_of_isLower {c : Char} (small : c.isLower = true) : c.toNat < 0x80 := by
  have below : c.val ≤ 'z'.val := of_decide_eq_true (Bool.and_eq_true _ _ |>.mp small).2
  exact Nat.lt_of_le_of_lt below (by decide)

theorem lowers_of_low {c : Char} (low : c.toNat < 0x80) :
    lowerChar c.toLower = [c.toLower] ∧ isLetter c.toLower = isLetter c ∧
      (isLetter c = false → c.toLower = c) :=
  of_low c low (by decide +kernel)

theorem lowers_of_high {c : Char} (high : 0x80 ≤ c.toNat) (plain : c ≠ 'İ') :
    Lowers c [Char.ofNat (lowerPoint c.toNat)] := by
  have low : ¬ c.toNat < 0x80 := by omega
  rcases lowerPoint_cases c.toNat with stays | ⟨letter,image | kelvin,undotted,settled⟩
  · have image := lowerChar_of_high high plain
    rw [stays,Char.ofNat_toNat] at image ⊢
    exact .single plain image rfl (fun _ => rfl)
  · obtain ⟨same,imageHigh⟩ := toNat_ofNat_of_covers image
    have imagePlain : Char.ofNat (lowerPoint c.toNat) ≠ 'İ' := by
      intro becomes
      rw [becomes] at same
      exact undotted same.symm
    have imageLow : ¬ (Char.ofNat (lowerPoint c.toNat)).toNat < 0x80 := by omega
    have kind : isLetter (Char.ofNat (lowerPoint c.toNat)) = isLetter c := by
      rw [isLetter,isLetter,if_neg low,if_neg imageLow,same,letter,image]
    refine .single plain ?_ kind (by simp [isLetter,low,letter])
    rw [lowerChar_of_high (by omega) imagePlain,same,settled]
  · have opens : isLetter c = true := by rw [isLetter,if_neg low,letter]
    rw [kelvin]
    exact .single plain (by decide) (by rw [opens]; decide) (by simp [opens])

theorem lowers_lowerChar (c : Char) : Lowers c (lowerChar c) := by
  by_cases dotted : c = 'İ'
  · subst dotted
    exact .dotted
  · by_cases low : c.toNat < 0x80
    · obtain ⟨settled,kind,kept⟩ := lowers_of_low low
      rw [lowerChar,if_pos low]
      exact .single dotted settled kind kept
    · have high : 0x80 ≤ c.toNat := by omega
      rw [lowerChar_of_high high dotted]
      exact lowers_of_high high dotted

theorem lowercaseAfter_cons (before : List Char) (c : Char) (rest : List Char) :
    ∃ image, Lowers c image ∧
      lowercaseAfter before (c::rest) = image ++ lowercaseAfter (c::before) rest := by
  refine ⟨_,?_,rfl⟩
  split
  next sigma =>
    subst sigma
    -- either of the two small sigmas is settled
    split
    · exact .single (by decide) (by decide +kernel) (by decide +kernel) (by decide +kernel)
    · exact .single (by decide) (by decide +kernel) (by decide +kernel) (by decide +kernel)
  next => exact lowers_lowerChar c

theorem Lowers.settled {c : Char} {image : List Char} (lowers : Lowers c image) :
    ∀ d ∈ image, lowerChar d = [d] := by
  cases lowers with
  | dotted =>
    have i : lowerChar 'i' = ['i'] := by decide
    have dot : lowerChar '\u0307' = ['\u0307'] := by decide +kernel
    exact List.forall_mem_cons.mpr ⟨i,List.forall_mem_singleton.mpr dot⟩
  | single plain settled kind kept => exact List.forall_mem_singleton.mpr settled

theorem Lowers.letter_or_kept {c : Char} {image : List Char} (lowers : Lowers c image) :
    ∀ d ∈ image, isLetter d = true ∨ d = '\u0307' ∨ d = c := by
  cases lowers with
  | dotted => simp [show isLetter 'i' = true by decide]
  | @single _ d plain settled kind kept =>
    rw [List.forall_mem_singleton]
    cases letter : isLetter c with
    | false => exact .inr (.inr (kept letter))
    | true => exact .inl (kind.trans letter)

theorem settled_lowercaseAfter (before text : List Char) :
    ∀ d ∈ lowercaseAfter before text, lowerChar d = [d] := by
  induction text generalizing before with
  | nil => exact List.forall_mem_nil _
  | cons c rest ih =>
    obtain ⟨image,lowers,same⟩ := lowercaseAfter_cons before c rest
    rw [same,List.forall_mem_append]
    exact ⟨lowers.settled,ih _⟩

theorem letter_or_kept_lowercaseAfter (before text : List Char) :
    ∀ d ∈ lowercaseAfter before text, isLetter d = true ∨ d = '\u0307' ∨ d ∈ text := by
  induction text generalizing before with
  | nil => exact List.forall_mem_nil _
  | cons c rest ih =>
    obtain ⟨image,lowers,same⟩ := lowercaseAfter_cons before c rest
    rw [same,List.forall_mem_append]
    refine ⟨fun d member => ?_,fun d member => ?_⟩
    · refine (lowers.letter_or_kept d member).imp_right (Or.imp_right ?_)
      rintro rfl
      exact List.mem_cons_self
    · exact (ih _ d member).imp_right (Or.imp_right (List.mem_cons_of_mem c))

theorem lowercaseAfter_of_settled {text : List Char} (settled : ∀ d ∈ text, lowerChar d = [d])
    (before : List Char) : lowercaseAfter before text = text := by
  induction text generalizing before with
  | nil => rfl
  | cons c rest ih =>
    obtain ⟨first,others⟩ := List.forall_mem_cons.mp settled
    have plain : c ≠ 'Σ' := by
      rintro rfl
      revert first
      decide +kernel
    rw [lowercaseAfter,if_neg plain,first,ih others]
    rfl

theorem lowercase_lowercase (text : String) : lowercase (lowercase text) = lowercase text := by
  rw [lowercase,lowercase,String.toList_ofList,
    lowercaseAfter_of_settled (settled_lowercaseAfter _ _)]

def Ascii (text : String) : Prop := ∀ c ∈ text.toList, c.toNat < 0x80

theorem ascii_iff {text : String} : Ascii text ↔ text.toList.all (·.toNat.blt 0x80) = true := by
  simp only [Ascii,List.all_eq_true,Nat.blt_eq]

instance (text : String) : Decidable (Ascii text) := decidable_of_iff _ ascii_iff.symm

theorem lowercaseAfter_of_ascii {text : List Char} (ascii : ∀ c ∈ text, c.toNat < 0x80)
    (before : List Char) : lowercaseAfter before text = text.map Char.toLower := by
  induction text generalizing before with
  | nil => rfl
  | cons c rest ih =>
    obtain ⟨low,others⟩ := List.forall_mem_cons.mp ascii
    have plain : c ≠ 'Σ' := by
      rintro rfl
      revert low
      decide
    rw [lowercaseAfter,if_neg plain,lowerChar,if_pos low,ih others]
    rfl

theorem toList_lowercase {text : String} (ascii : Ascii text) :
    (lowercase text).toList = text.toList.map Char.toLower := by
  rw [lowercase,String.toList_ofList,lowercaseAfter_of_ascii ascii]

theorem toList_capitalize {text : String} {c : Char} {rest : List Char}
    (chars : text.toList = c::rest) (low : c.toNat < 0x80) :
    (capitalize text).toList = c.toUpper::rest := by
  have upper : upperChar c = [c.toUpper] := if_pos low
  unfold capitalize
  rw [chars,String.toList_ofList,upper]
  rfl

end InformerGen.Text
