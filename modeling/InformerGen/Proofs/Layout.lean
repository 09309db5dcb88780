import InformerGen.Layout
import Mathlib.Data.List.Infix

/-! The text that steps come to. A step stands at the depth of its body and of the indents that are open
there, wherever conditions and sequences have put it. As long as no dedent comes without an indent before
it, the depth that the steps hand on to one another is this one, and it never meets the margin. -/
namespace InformerGen.Layout

mutual

/-- The steps that a step stands for in its body, once conditions and sequences are resolved. -/
def inlined : LayoutStep → List LayoutStep
  | .onlyIf condition steps => if condition then inlinedSteps steps else []
  | .each items => inlinedItems items
  | step => [step]

def inlinedSteps : List LayoutStep → List LayoutStep
  | [] => []
  | step::rest => inlined step ++ inlinedSteps rest

def inlinedItems : List (List LayoutStep) → List LayoutStep
  | [] => []
  | steps::rest => inlinedSteps steps ++ inlinedItems rest

end

def isIndent : LayoutStep → Bool
  | .indent => true
  | _ => false

def isDedent : LayoutStep → Bool
  | .dedent => true
  | _ => false

def indents (steps : List LayoutStep) : Nat := steps.countP isIndent

def dedents (steps : List LayoutStep) : Nat := steps.countP isDedent

def openIndents (steps : List LayoutStep) : Nat := indents steps - dedents steps

/-- No dedent comes without an indent before it, and no indent is left open, in the body and in that of
each block in it. -/
inductive Balanced : List LayoutStep → Prop
  | intro {steps : List LayoutStep}
      (opened : ∀ before, before <+: inlinedSteps steps → dedents before ≤ indents before)
      (closed : dedents (inlinedSteps steps) = indents (inlinedSteps steps))
      (blocks : ∀ header close body, .block header close body ∈ inlinedSteps steps → Balanced body) :
      Balanced steps

/-- A line at a depth; an empty one has no tabs. -/
def lineAt (depth : Nat) (text : String) : String :=
  if text = "" then "\n" else tabs depth ++ text ++ "\n"

mutual

/-- The text of a step in a body at the depth, behind the steps that come before it there. -/
def textAt (depth : Nat) (before : List LayoutStep) : LayoutStep → String
  | .line text => lineAt (depth + openIndents before) text
  | .raw text => text
  | .comment text => tabs (depth + openIndents before) ++ "// " ++ text ++ "\n"
  | .blank => "\n"
  | .indent => ""
  | .dedent => ""
  | .block header close steps =>
    lineAt (depth + openIndents before) header ++
      stepsAt (depth + openIndents before + 1) [] steps ++
      lineAt (depth + openIndents before) close
  | .onlyIf condition steps => if condition then stepsAt depth before steps else ""
  | .each items => itemsAt depth before items

def stepsAt (depth : Nat) (before : List LayoutStep) : List LayoutStep → String
  | [] => ""
  | step::rest => textAt depth before step ++ stepsAt depth (before ++ inlined step) rest

def itemsAt (depth : Nat) (before : List LayoutStep) : List (List LayoutStep) → String
  | [] => ""
  | steps::rest => stepsAt depth before steps ++ itemsAt depth (before ++ inlinedSteps steps) rest

end

def bodyAt (depth : Nat) (steps : List LayoutStep) : String := stepsAt depth [] steps

/-- Behind the steps before, no dedent among those to come is without an indent, and the blocks among
them are balanced. -/
structure Fits (before steps : List LayoutStep) : Prop where
  opened : ∀ part, part <+: before ++ steps → dedents part ≤ indents part
  blocks : ∀ header close body, .block header close body ∈ steps → Balanced body

variable {before first second steps : List LayoutStep}

namespace Fits

theorem left (fits : Fits before (first ++ second)) : Fits before first := by
  refine ⟨fun part within => fits.opened part ?_,fun header close body member =>
    fits.blocks header close body (List.mem_append_left _ member)⟩
  rw [← List.append_assoc]
  exact within.trans (List.prefix_append _ _)

theorem right (fits : Fits before (first ++ second)) : Fits (before ++ first) second := by
  refine ⟨fun part within => fits.opened part ?_,fun header close body member =>
    fits.blocks header close body (List.mem_append_right _ member)⟩
  rwa [← List.append_assoc]

theorem dedents_le (fits : Fits before steps) : dedents (before ++ steps) ≤ indents (before ++ steps) :=
  fits.opened _ List.prefix_rfl

theorem dedents_le_before (fits : Fits before steps) : dedents before ≤ indents before :=
  fits.opened before (List.prefix_append _ _)

end Fits

theorem Balanced.fits (balanced : Balanced steps) : Fits [] (inlinedSteps steps) := by
  obtain ⟨opened,_,blocks⟩ := balanced
  exact ⟨opened,blocks⟩

theorem Balanced.openIndents_eq (balanced : Balanced steps) : openIndents (inlinedSteps steps) = 0 := by
  obtain ⟨_,closed,_⟩ := balanced
  rw [openIndents,closed,Nat.sub_self]

theorem openIndents_concat {step : LayoutStep} (level : isIndent step = false)
    (alsoLevel : isDedent step = false) (before : List LayoutStep) :
    openIndents (before ++ [step]) = openIndents before := by
  simp [openIndents,indents,dedents,level,alsoLevel]

theorem openIndents_indent (fits : Fits before [.indent]) :
    openIndents (before ++ [.indent]) = openIndents before + 1 := by
  have enough := fits.dedents_le_before
  have more : indents (before ++ [.indent]) = indents before + 1 := by simp [indents,isIndent]
  have same : dedents (before ++ [.indent]) = dedents before := by simp [dedents,isDedent]
  rw [openIndents,openIndents,more,same]
  omega

theorem openIndents_dedent (fits : Fits before [.dedent]) :
    openIndents before = openIndents (before ++ [.dedent]) + 1 := by
  have enough := fits.dedents_le
  have same : indents (before ++ [.dedent]) = indents before := by simp [indents,isIndent]
  have more : dedents (before ++ [.dedent]) = dedents before + 1 := by simp [dedents,isDedent]
  rw [same,more] at enough
  rw [openIndents,openIndents,same,more]
  omega

mutual

theorem runStep_of_fits (step : LayoutStep) (before : List LayoutStep) (depth : Nat) (text : String)
    (fits : Fits before (inlined step)) :
    runStep ⟨depth + openIndents before,text⟩ step =
      ⟨depth + openIndents (before ++ inlined step),text ++ textAt depth before step⟩ := by
  match step with
  | .line _ | .raw _ | .comment _ | .blank =>
    simp only [inlined]
    rw [openIndents_concat rfl rfl]
    rfl
  | .indent =>
    simp only [inlined] at fits ⊢
    rw [openIndents_indent fits,textAt,String.append_empty]
    rfl
  | .dedent =>
    simp only [inlined] at fits ⊢
    rw [openIndents_dedent fits,textAt,String.append_empty]
    rfl
  | .block header close steps =>
    simp only [inlined] at fits ⊢
    have balanced := fits.blocks header close steps List.mem_cons_self
    -- The body counts its indents anew, and hands the depth back at which it has begun.
    have body := runSteps_of_fits steps [] (depth + openIndents before + 1)
      (text ++ lineAt (depth + openIndents before) header) balanced.fits
    rw [List.nil_append,balanced.openIndents_eq] at body
    rw [openIndents_concat rfl rfl,textAt,← String.append_assoc,← String.append_assoc]
    exact congrArg (fun inner => inner.flatten.addLine close) body
  | .onlyIf condition steps =>
    cases condition with
    | false => simp [runStep,inlined,textAt]
    | true => exact runSteps_of_fits steps before depth text fits
  | .each items => exact runItems_of_fits items before depth text fits

theorem runSteps_of_fits (steps : List LayoutStep) (before : List LayoutStep) (depth : Nat)
    (text : String) (fits : Fits before (inlinedSteps steps)) :
    runSteps ⟨depth + openIndents before,text⟩ steps =
      ⟨depth + openIndents (before ++ inlinedSteps steps),text ++ stepsAt depth before steps⟩ := by
  match steps with
  | [] => simp [runSteps,inlinedSteps,stepsAt]
  | step::rest =>
    rw [inlinedSteps] at fits
    rw [runSteps,runStep_of_fits step before depth text fits.left,
      runSteps_of_fits rest _ depth _ fits.right,inlinedSteps,stepsAt,List.append_assoc,
      String.append_assoc]

theorem runItems_of_fits (items : List (List LayoutStep)) (before : List LayoutStep) (depth : Nat)
    (text : String) (fits : Fits before (inlinedItems items)) :
    runItems ⟨depth + openIndents before,text⟩ items =
      ⟨depth + openIndents (before ++ inlinedItems items),text ++ itemsAt depth before items⟩ := by
  match items with
  | [] => simp [runItems,inlinedItems,itemsAt]
  | steps::rest =>
    rw [inlinedItems] at fits
    rw [runItems,runSteps_of_fits steps before depth text fits.left,
      runItems_of_fits rest _ depth _ fits.right,inlinedItems,itemsAt,List.append_assoc,
      String.append_assoc]

end

/-- Balanced steps are laid out by nesting. The text of the body at the depth of the layout comes behind
what is there, and the depth is the same in the end. -/
theorem Balanced.runSteps_eq (balanced : Balanced steps) (layout : Layout) :
    runSteps layout steps = ⟨layout.depth,layout.text ++ bodyAt layout.depth steps⟩ := by
  have run := runSteps_of_fits steps [] layout.depth layout.text balanced.fits
  rwa [List.nil_append,balanced.openIndents_eq] at run

/-- An indent from one item to the next, a block with open indents of its own, and a dedent that is left
out with its condition. -/
theorem nested_steps_laidOut :
    let body : List LayoutStep := [.comment "c",.indent,.raw "r;",.blank,.line "d",.dedent]
    let steps : List LayoutStep := [
      .each [[.line "a",.indent],[.block "b (" ")" body,.line ""],[.dedent]],
      .onlyIf false [.dedent],.onlyIf true [.line "e"]]
    Balanced steps ∧ runSteps ⟨1,"x"⟩ steps =
      ⟨1,"x\ta\n\t\tb (\n\t\t\t// c\nr;\n\t\t\t\td\n\t\t)\n\n\te\n"⟩ := by
  intro body steps
  have within : Balanced body := by
    refine ⟨fun before opens => ?_,by decide,fun _ _ _ member => ?_⟩
    · rw [← List.mem_inits] at opens
      revert before
      decide
    · exact absurd member (by simp [body,inlinedSteps,inlined])
  have balanced : Balanced steps := by
    refine ⟨fun before opens => ?_,by decide,fun header close inner member => ?_⟩
    · rw [← List.mem_inits] at opens
      revert before
      decide
    · have same : header = "b (" ∧ close = ")" ∧ inner = body := by
        simpa [inlinedSteps,inlinedItems,inlined,steps] using member
      exact same.2.2 ▸ within
  refine ⟨balanced,?_⟩
  rw [balanced.runSteps_eq]
  decide

end InformerGen.Layout
