/-! Laying out code line by line, one tab for each level of depth. -/
namespace InformerGen

structure Layout where
  depth : Nat
  text : String
deriving DecidableEq, Repr

inductive LayoutStep where
  /-- A line at the current depth; an empty line has no tabs. -/
  | line (text : String)
  | raw (text : String)
  | comment (text : String)
  | blank
  | indent
  /-- One level less, or none at the margin. -/
  | dedent
  | block (header close : String) (steps : List LayoutStep)
  | onlyIf (condition : Bool) (steps : List LayoutStep)
  | each (items : List (List LayoutStep))

namespace Layout

def empty : Layout := ⟨0,""⟩

def tabs (depth : Nat) : String := String.ofList (List.replicate depth '\t')

def append (layout : Layout) (text : String) : Layout :=
  { layout with text := layout.text ++ text }

def addLine (layout : Layout) (text : String) : Layout :=
  layout.append (if text = "" then "\n" else tabs layout.depth ++ text ++ "\n")

def addComment (layout : Layout) (text : String) : Layout :=
  layout.append (tabs layout.depth ++ "// " ++ text ++ "\n")

def deepen (layout : Layout) : Layout := { layout with depth := layout.depth + 1 }

def flatten (layout : Layout) : Layout := { layout with depth := layout.depth - 1 }

mutual

def runStep (layout : Layout) : LayoutStep → Layout
  | .line text => layout.addLine text
  | .raw text => layout.append text
  | .comment text => layout.addComment text
  | .blank => layout.append "\n"
  | .indent => layout.deepen
  | .dedent => layout.flatten
  | .block header close steps =>
    ((runSteps (layout.addLine header).deepen steps).flatten).addLine close
  | .onlyIf condition steps => if condition then runSteps layout steps else layout
  | .each items => runItems layout items

def runSteps (layout : Layout) : List LayoutStep → Layout
  | [] => layout
  | step::rest => runSteps (runStep layout step) rest

def runItems (layout : Layout) : List (List LayoutStep) → Layout
  | [] => layout
  | steps::rest => runItems (runSteps layout steps) rest

end

end Layout

end InformerGen
