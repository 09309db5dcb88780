import InformerGen.Proofs.Imports
import InformerGen.Proofs.PackageName
import InformerGen.Proofs.Text.Cut
import Mathlib.Data.List.Forall2

/-! The lines of a tracker tell its imports. A line can be read back: up to the first quotes stands the
qualifier, which has none itself, and the path goes from there to the end, whatever is in it. Where
nothing stands before the quotes the qualifier has been left out, and is the last segment of the path. -/
namespace InformerGen.ImportTracker

def readLine? (text : String) : Option (String × String) :=
  (Text.splitAtFirst '"' text.toList).map fun (lead,quoted) =>
    let path := String.ofList quoted.dropLast
    (path,if lead.isEmpty then Text.lastPiece '/' path else String.ofList lead.dropLast)

theorem readLine?_of_parts {text : String} {lead : List Char} (path : String) (unquoted : '"' ∉ lead)
    (parts : text.toList = lead ++ '"'::(path.toList ++ ['"'])) :
    readLine? text = some (path,
      if lead.isEmpty then Text.lastPiece '/' path else String.ofList lead.dropLast) := by
  rw [readLine?,parts,Text.splitAtFirst_append unquoted,Option.map_some]
  simp only [List.dropLast_concat,String.ofList_toList]

theorem readLine?_line {qualifier : String} (unquoted : '"' ∉ qualifier.toList) (path : String) :
    readLine? (line path qualifier) = some (path,qualifier) := by
  unfold line
  split
  next same =>
    have parts : ("\"" ++ path ++ "\"").toList = [] ++ '"'::(path.toList ++ ['"']) := by simp
    rw [readLine?_of_parts path List.not_mem_nil parts,List.isEmpty_nil,if_pos rfl,same]
  next other =>
    have parts : (qualifier ++ " \"" ++ path ++ "\"").toList =
        (qualifier.toList ++ [' ']) ++ '"'::(path.toList ++ ['"']) := by simp
    have blank : '"' ∉ qualifier.toList ++ [' '] := by simpa using unquoted
    have stands : (qualifier.toList ++ [' ']).isEmpty = false := by simp
    rw [readLine?_of_parts path blank parts,stands,if_neg Bool.false_ne_true,List.dropLast_concat,
      String.ofList_toList]

def Legal (imports : ImportTracker) : Prop :=
  ∀ entry ∈ imports.pairs, Identifier.isIdentifier entry.2 = true

variable {imports other : ImportTracker}

theorem legal_iff : imports.Legal ↔
    ∀ entry ∈ imports.byPath.entries, Identifier.isIdentifier entry.2 = true := by
  simp only [Legal,mem_entries_iff_mem_pairs]

instance : Decidable imports.Legal := decidable_of_iff _ legal_iff.symm

theorem Legal.map_readLine?_lines (legal : imports.Legal) :
    imports.lines.map readLine? = imports.byPath.entries.map some := by
  rw [lines,List.map_map]
  apply List.map_congr_left
  intro entry member
  have named := legal_iff.mp legal entry member
  have unquoted : '"' ∉ entry.2.toList := Identifier.unmarked_of_isIdentifier (by decide) named
  rw [Function.comp_apply,readLine?_line unquoted]

theorem Legal.pairs_eq_of_lines_eq (legal : imports.Legal) (otherLegal : other.Legal)
    (same : imports.lines = other.lines) : imports.pairs = other.pairs := by
  have read := congrArg (List.map readLine?) same
  rw [legal.map_readLine?_lines,otherLegal.map_readLine?_lines] at read
  have entries := List.map_injective_iff.mpr (Option.some_injective _) read
  rw [← listed_entries,← listed_entries,entries]

theorem forall₂_lines (imports : ImportTracker) : List.Forall₂
    (fun path text => ∃ qualifier, (path,qualifier) ∈ imports.pairs ∧ text = line path qualifier)
    imports.byPath.keys imports.lines := by
  rw [OrderedMap.keys,lines,List.forall₂_map_left_iff,List.forall₂_map_right_iff,List.forall₂_same]
  intro entry member
  exact ⟨entry.2,(imports.mem_entries_iff_mem_pairs entry).mp member,rfl⟩

theorem mem_keys_iff_mem_pairs (imports : ImportTracker) (path : String) :
    path ∈ imports.byPath.keys ↔ ∃ qualifier, (path,qualifier) ∈ imports.pairs := by
  rw [OrderedMap.mem_keys_iff,Option.isSome_iff_exists]
  rfl

/-- There is one line for each path, in ascending order, and trackers with the same lines have the same
imports if their qualifiers are identifiers. -/
theorem Built.lines_tell_imports (built : Built imports) (legal : imports.Legal) :
    (∃ paths : List String, paths.Pairwise (· < ·) ∧
      (∀ path, path ∈ paths ↔ ∃ qualifier, (path,qualifier) ∈ imports.pairs) ∧
      List.Forall₂ (fun path text =>
        ∃ qualifier, (path,qualifier) ∈ imports.pairs ∧ text = line path qualifier)
        paths imports.lines) ∧
    ∀ other, Built other → other.Legal →
      (imports.lines = other.lines ↔ imports.pairs = other.pairs) := by
  refine ⟨⟨imports.byPath.keys,imports.byPath.keys_ascending,imports.mem_keys_iff_mem_pairs,
    imports.forall₂_lines⟩,fun other otherBuilt otherLegal => ⟨?_,fun same => ?_⟩⟩
  · exact legal.pairs_eq_of_lines_eq otherLegal
  · rw [built.consistent.ext otherBuilt.consistent same]

/-- The same imports, added in one order and merged in another. One path has quotes, a blank and a slash
at its end; of the others one ends in its qualifier. -/
theorem quoted_path_told :
    let slashed := (empty.add "say \"hi\" x/" "hi").2
    let imports := ((slashed.add "pkg/context" "context").2.add "k8s.io/api/core/v1" "corev1").2
    let other := (((empty.add "k8s.io/api/core/v1" "corev1").2.add "pkg/context" "context").2.merge
      slashed).2
    (Built imports ∧ imports.Legal ∧ Built other ∧ other.Legal) ∧
      imports.lines = ["corev1 \"k8s.io/api/core/v1\"","\"pkg/context\"","hi \"say \"hi\" x/\""] ∧
      imports.pairs = other.pairs := by
  intro slashed imports other
  have first : Built slashed := Built.empty.add _ _
  have built : Built imports := (first.add _ _).add _ _
  have otherBuilt : Built other := ((Built.empty.add _ _).add _ _).merge first
  have legal : imports.Legal ∧ other.Legal := by decide
  have same : imports.lines = other.lines := by decide
  have told := (built.lines_tell_imports legal.1).2 other otherBuilt legal.2
  exact ⟨⟨built,legal.1,otherBuilt,legal.2⟩,by decide,told.mp same⟩

end InformerGen.ImportTracker
