import InformerGen.Proofs.Generator.Imports
import InformerGen.Proofs.PackageName
import InformerGen.Proofs.Session
import InformerGen.Proofs.SourceFile

/-! The file that a session makes of a generated text. Its package is named twice, in its path and in
the package clause, which is made from the path; the names are the same. Its source has its imports
and its body as they are. -/
namespace InformerGen

theorem Manifest.Kept.isIdentifier_of_type? {manifest : Manifest} (kept : manifest.Kept)
    {name : Name} {type : TypeDescriptor} (found : manifest.known.type? name = some type) :
    Identifier.isIdentifier name.name = true := by
  obtain ⟨package,member,entry,inside,rfl,_⟩ := Universe.exists_of_type?_ofManifest found
  exact (kept.wellFormed package member).identifiers entry inside

theorem ImportTracker.line_ne_empty (path qualifier : String) : line path qualifier ≠ "" := by
  unfold line
  split <;> simp

namespace Session

variable {session : Session} {name : Name} {file : InformerFile}

theorem assembled_of_generate (succeeded : (session.generate name).result = .ok file) :
    ∃ type generated, session.known.type? name = some type ∧
      ((session.generator name).generate type).result = .ok (some generated) ∧
      file = assemble name (session.packageFor name) generated := by
  unfold generate at succeeded
  cases found : session.known.type? name with
  | none =>
    rw [found] at succeeded
    cases succeeded
  | some type =>
    rw [found] at succeeded
    dsimp only at succeeded
    split at succeeded
    next => cases succeeded
    next generator made =>
      obtain ⟨_,rfl⟩ := generator?_eq_some_iff.mp made
      dsimp only at succeeded
      split at succeeded
      next error failed => cases succeeded
      next skipped => cases succeeded
      next generated delivered =>
        cases succeeded
        exact ⟨type,generated,rfl,delivered,rfl⟩

theorem source_assemble (name : Name) (path : String) {generated : Generated}
    (filled : ∀ line ∈ generated.imports, line ≠ "")
    (starts : generated.text.toList.head? ≠ some '\n')
    (ends : generated.text.toList.getLast? = some '\n') :
    (assemble name path generated).source = "// Code generated by injgen. DO NOT EDIT.\n" ++ "\n" ++
      "package " ++ SourceFile.packageOfPath path ++ "\n" ++ "\n" ++
      SourceFile.importBlock (assemble name path generated).imports ++
      (assemble name path generated).body := by
  have rendered : (SourceFile.mk (SourceFile.packageOfPath path) generated.imports
      generated.text).render = _ := SourceFile.render_eq filled starts ends
  rw [assemble,rendered]

/-- The source of a file is the header, the package clause, the imports and the body, as they are. The
package clause has the last segment of the package's path, from which it is made. -/
theorem generated_file_assembled {manifest : Manifest} (accepted : manifest.check = .ok ())
    {name : Name} {file : InformerFile}
    (succeeded : ((ofManifest manifest).generate name).result = .ok file) :
    let package := Text.lastPiece '/' file.package
    package = Identifier.packageName name.name ∧
      SourceFile.packageOfPath file.package = package ∧
      file.source = "// Code generated by injgen. DO NOT EDIT.\n" ++ "\n" ++
        "package " ++ package ++ "\n" ++ "\n" ++ SourceFile.importBlock file.imports ++ file.body := by
  intro package
  obtain ⟨type,generated,found,delivered,rfl⟩ := assembled_of_generate succeeded
  have kept : manifest.Kept := Manifest.check_eq_ok_iff.mp accepted
  have whole := Identifier.notMem_of_isIdentifier (kept.isIdentifier_of_type? found)
  have path : package = Identifier.packageName name.name := lastPiece_outputPackage whole _
  have clause : SourceFile.packageOfPath ((ofManifest manifest).packageFor name) = package :=
    (packageOfPath_outputPackage whole _).trans path.symm
  obtain ⟨trail,composed,lines⟩ := InformerGenerator.composed_of_generated delivered
  obtain ⟨tags,_,text,_⟩ := InformerGenerator.text_of_composed composed
  refine ⟨path,clause,?_⟩
  have filled : ∀ line ∈ generated.imports, line ≠ "" := by
    intro line member
    rw [lines] at member
    obtain ⟨entry,_,rfl⟩ := List.mem_map.mp member
    exact ImportTracker.line_ne_empty _ _
  have starts : generated.text.toList.head? ≠ some '\n' := by
    rw [text,Informer.textFor,Informer.head?_fileText]
    decide
  have ends : generated.text.toList.getLast? = some '\n' := by
    rw [text]
    exact Informer.getLast?_fileText
  have assembled := source_assemble name ((ofManifest manifest).packageFor name) filled starts ends
  rw [clause] at assembled
  exact assembled

/-- A type that is called as a keyword, in a session whose collaborators are one package. -/
theorem range_file_assembled :
    let declared : List TypeEntry := ["Range","RangeInformer","Interface","Informer",
      "SharedInformerFactory"].map fun name => ⟨name,[],[],[]⟩
    let manifest : Manifest := ⟨"o",⟨"g","v",none⟩,⟨"c","c","c","c","c","c"⟩,.standard,
      [⟨"c",declared,["Get","RegisterInformer"],[]⟩]⟩
    manifest.check = .ok () ∧
      ∃ file, ((ofManifest manifest).generate ⟨"c","Range"⟩).result = .ok file ∧
        SourceFile.packageOfPath file.package = "rangepkg" ∧
        file.source = "// Code generated by injgen. DO NOT EDIT.\n" ++ "\n" ++
          "package " ++ "rangepkg" ++ "\n" ++ "\n" ++ SourceFile.importBlock file.imports ++
          file.body := by
  intro declared manifest
  have accepted : manifest.check = .ok () := by decide +kernel
  have ends : AliasTable.Ends (aliasedPaths manifest) Informer.templateLocals :=
    AliasTable.ends_of_spellable (by decide +kernel) _
  have equipped : (ofManifest manifest).Equipped ⟨"c","Range"⟩ :=
    AliasTable.ends_of_spellable (by decide +kernel) _
  have found : (ofManifest manifest).known.type? ⟨"c","Range"⟩ = some (.plain "c" "Range") := by
    decide +kernel
  have untagged : TagSet.parse [] = .ok ⟨false,false,false,false,[],none⟩ := by decide +kernel
  have generable : (ofManifest manifest).Generable ⟨"c","Range"⟩ :=
    ⟨⟨_,_,found,untagged⟩,by decide +kernel⟩
  have lengthened : Identifier.packageName "Range" = "rangepkg" := by decide +kernel
  obtain ⟨file,succeeded⟩ :=
    generable.generated (Manifest.check_eq_ok_iff.mp accepted) ends equipped
  obtain ⟨path,clause,assembled⟩ := generated_file_assembled accepted succeeded
  have named : Text.lastPiece '/' file.package = "rangepkg" := path.trans lengthened
  rw [named] at clause assembled
  exact ⟨accepted,file,succeeded,clause,assembled⟩

end Session

end InformerGen
