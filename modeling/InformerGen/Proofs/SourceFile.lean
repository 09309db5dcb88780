import InformerGen.SourceFile

/-! The text of a source file, line by line. A body that begins with a declaration and ends with a line
end is taken up as it is. -/
namespace InformerGen

namespace Layout

variable (layout : Layout)

@[simp] theorem append_append (first second : String) :
    (layout.append first).append second = layout.append (first ++ second) := by
  simp [append,String.append_assoc]

@[simp] theorem depth_append (text : String) : (layout.append text).depth = layout.depth := rfl

theorem addLine_of_ne {text : String} (filled : text ≠ "") :
    layout.addLine text = layout.append (tabs layout.depth ++ text ++ "\n") := by
  rw [addLine,if_neg filled]

theorem runItems_lines {lines : List String} (filled : ∀ line ∈ lines, line ≠ "") :
    runItems layout (lines.map fun line => [.line line]) =
      layout.append (String.join (lines.map fun line => tabs layout.depth ++ line ++ "\n")) := by
  induction lines generalizing layout with
  | nil => simp [runItems,append]
  | cons line rest ih =>
    obtain ⟨first,others⟩ := List.forall_mem_cons.mp filled
    rw [List.map_cons,runItems,runSteps,runStep,runSteps,addLine_of_ne layout first,ih _ others,
      append_append,depth_append,List.map_cons,String.join_cons]

end Layout

namespace SourceFile

/-- The import block with the blank line after it, one import on each line. -/
def importBlock : List String → String
  | [] => ""
  | lines => "import (\n" ++ String.join (lines.map fun line => "\t" ++ line ++ "\n") ++ ")\n\n"

theorem runSteps_block {lines : List String} (filled : ∀ line ∈ lines, line ≠ "")
    {layout : Layout} (margin : layout.depth = 0) :
    Layout.runStep layout (.onlyIf (!lines.isEmpty) [
      .block "import (" ")" [.each (lines.map fun line => [.line line])],.blank]) =
        layout.append (importBlock lines) := by
  cases lines with
  | nil => simp [Layout.runStep,importBlock,Layout.append]
  | cons line rest =>
    have opened : (layout.addLine "import (").deepen.depth = 1 := by
      rw [Layout.deepen,Layout.addLine_of_ne _ (by decide),Layout.depth_append,margin]
    simp only [Layout.runStep,Layout.runSteps,Layout.runItems_lines _ filled,opened]
    simp [Layout.append,Layout.addLine,Layout.deepen,Layout.flatten,margin,Layout.tabs,importBlock,
      String.append_assoc]

theorem text_preamble {file : SourceFile} (filled : ∀ line ∈ file.imports, line ≠ "") :
    (Layout.runSteps .empty file.preamble).text =
      "// " ++ header ++ "\n" ++ "\n" ++ "package " ++ file.package ++ "\n" ++ "\n" ++
        importBlock file.imports := by
  have clause : "package " ++ file.package ≠ "" := by simp
  rw [preamble,Layout.runSteps,Layout.runSteps,Layout.runSteps,Layout.runSteps,Layout.runSteps,
    Layout.runSteps,runSteps_block filled]
  · simp only [Layout.runStep,Layout.addLine_of_ne _ clause,Layout.addComment]
    simp only [Layout.append,Layout.empty,Layout.tabs,List.replicate_zero,String.ofList_nil,
      String.empty_append,String.append_assoc]
  · simp [Layout.runStep,Layout.addLine_of_ne _ clause,Layout.addComment,Layout.empty]

theorem header_line : "// " ++ header ++ "\n" = "// Code generated by injgen. DO NOT EDIT.\n" := by
  decide +kernel

theorem dropLeadingNewlines_of_head {text : String} (starts : text.toList.head? ≠ some '\n') :
    dropLeadingNewlines text = text := by
  have all : text.toList.dropWhile (· == '\n') = text.toList := by
    cases chars : text.toList with
    | nil => rfl
    | cons c rest =>
      rw [chars] at starts
      apply List.dropWhile_cons_of_neg
      simpa using starts
  rw [dropLeadingNewlines,all,String.ofList_toList]

theorem render_eq {file : SourceFile} (filled : ∀ line ∈ file.imports, line ≠ "")
    (starts : file.body.toList.head? ≠ some '\n')
    (ends : file.body.toList.getLast? = some '\n') :
    file.render = "// Code generated by injgen. DO NOT EDIT.\n" ++ "\n" ++
      "package " ++ file.package ++ "\n" ++ "\n" ++ importBlock file.imports ++ file.body := by
  have last (above : String) : (above ++ file.body).toList.getLast? = some '\n' := by
    rw [String.toList_append,List.getLast?_append,ends]
    rfl
  rw [render,dropLeadingNewlines_of_head starts,Layout.append,text_preamble filled,endLine,
    if_pos (last _),header_line]

end SourceFile

end InformerGen
