import InformerGen.Proofs.Generator.Calls
import InformerGen.Proofs.Imports.Merging
import Mathlib.Data.List.OfFn

/-! Several generators with one table of aliases, called in turns. Whatever each of them gathers is
a part of the table, so all that they have gathered fits together. A generator that has handed over
a file keeps the imports of that file, whoever is called afterwards. -/
namespace InformerGen.InformerGenerator

abbrev Family (size : Nat) := Fin size → InformerGenerator

namespace Family

variable {size : Nat} {family : Family size} {table : AliasTable}

def perform (family : Family size) (turn : Fin size × GeneratorCall) :
    GeneratorAnswer × Family size :=
  let (answer,next) := (family turn.1).perform turn.2
  (answer,Function.update family turn.1 next)

/-- The answers to calls in turns, each with its place, and the generators after all of them. -/
def run : Family size → List (Fin size × GeneratorCall) →
    List (Fin size × GeneratorAnswer) × Family size
  | family,[] => ([],family)
  | family,turn::rest =>
    let (answer,next) := family.perform turn
    let (answers,last) := next.run rest
    ((turn.1,answer)::answers,last)

theorem perform_called (family : Family size) (turn : Fin size × GeneratorCall) :
    (family.perform turn).2 turn.1 = ((family turn.1).perform turn.2).2 :=
  Function.update_self ..

theorem perform_of_ne {turn : Fin size × GeneratorCall} {place : Fin size}
    (apart : place ≠ turn.1) : (family.perform turn).2 place = family place :=
  Function.update_of_ne apart ..

def Sharing (family : Family size) (table : AliasTable) : Prop :=
  ∀ place, (family place).Sound ∧ (family place).aliases = table

/-- The generator at the place has the imports of its target's file. -/
def Settled (family : Family size) (place : Fin size) : Prop :=
  (family place).imports.Consistent ∧ (family place).imports.pairs = (family place).needed

theorem Sharing.perform (sharing : family.Sharing table) (turn : Fin size × GeneratorCall) :
    (family.perform turn).2.Sharing table := by
  intro place
  by_cases called : place = turn.1
  · subst called
    obtain ⟨sound,shared⟩ := sharing turn.1
    obtain ⟨next,imports,same⟩ := sound.perform turn.2
    rw [perform_called]
    refine ⟨next,?_⟩
    rw [same]
    exact shared
  · rw [perform_of_ne called]
    exact sharing place

theorem Sharing.perform_of_settled (sharing : family.Sharing table) {place : Fin size}
    (settled : family.Settled place) (turn : Fin size × GeneratorCall) :
    (family.perform turn).2 place = family place := by
  by_cases called : place = turn.1
  · subst called
    rw [perform_called]
    exact (sharing turn.1).1.perform_of_gathered settled.1 settled.2 turn.2
  · exact perform_of_ne called

theorem Sharing.run (sharing : family.Sharing table) (turns : List (Fin size × GeneratorCall)) :
    (family.run turns).2.Sharing table := by
  induction turns generalizing family with
  | nil => exact sharing
  | cons turn rest ih => exact ih (sharing.perform turn)

theorem Sharing.run_of_settled (sharing : family.Sharing table) {place : Fin size}
    (settled : family.Settled place) (turns : List (Fin size × GeneratorCall)) :
    (family.run turns).2 place = family place := by
  induction turns generalizing family with
  | nil => rfl
  | cons turn rest ih =>
    have kept := sharing.perform_of_settled settled turn
    have later : (family.perform turn).2.Settled place := by
      rw [Settled,kept]
      exact settled
    exact (ih (sharing.perform turn) later).trans kept

theorem Sharing.error?_ne_imports (sharing : family.Sharing table)
    (turns : List (Fin size × GeneratorCall)) (error : ImportError) :
    ∀ told ∈ (family.run turns).1, told.2.error? ≠ some (.imports error) := by
  induction turns generalizing family with
  | nil => exact List.forall_mem_nil _
  | cons turn rest ih =>
    refine List.forall_mem_cons.mpr ⟨?_,?_⟩
    · exact (sharing turn.1).1.error?_perform_ne turn.2 error
    · exact ih (sharing.perform turn)

theorem Sharing.imports_of_generated (sharing : family.Sharing table)
    {turns : List (Fin size × GeneratorCall)} {place : Fin size} {file : Generated}
    (told : (place,.generated (.ok (some file))) ∈ (family.run turns).1) :
    file.imports = ((family.run turns).2 place).imports.lines := by
  induction turns generalizing family with
  | nil => cases told
  | cons turn rest ih =>
    have next := sharing.perform turn
    rcases List.mem_cons.mp told with answered | later
    · obtain ⟨called,answered⟩ := Prod.ext_iff.mp answered
      subst called
      obtain ⟨lines,settled⟩ := (sharing turn.1).1.imports_of_generated answered.symm
      rw [← perform_called] at lines settled
      -- from now on the generator stays as it is, so its imports in the end are those of the file
      rw [lines]
      exact congrArg (·.imports.lines) (next.run_of_settled settled rest).symm
    · exact ih next later

def trackers (family : Family size) : List ImportTracker :=
  List.ofFn fun place => (family place).imports

theorem Sharing.restricts (sharing : family.Sharing table) :
    ∀ imports ∈ family.trackers, imports.Restricts table := by
  intro imports member
  obtain ⟨place,rfl⟩ := (List.mem_ofFn' _ _).mp member
  obtain ⟨sound,shared⟩ := sharing place
  exact shared ▸ sound.restricts

end Family

theorem merged_of_restricts {table : AliasTable} (distinct : ImportTracker.OneToOne table.pairs)
    {trackers : List ImportTracker} (restricts : ∀ imports ∈ trackers, imports.Restricts table) :
    ∃ result, result.Restricts table ∧ result.pairs = ImportTracker.allPairs trackers ∧
      ∀ grouping : ImportTracker.Grouping, grouping.members.Perm trackers →
        grouping.merged = .ok result := by
  have consistent : ∀ imports ∈ trackers, imports.Consistent :=
    fun imports member => (restricts imports member).consistent
  have inside : ImportTracker.allPairs trackers ⊆ table.pairs := by
    rintro entry ⟨imports,member,recorded⟩
    exact (restricts imports member).inside recorded
  have listed : ∀ imports ∈ (ImportTracker.Grouping.inOrder trackers).members,
      imports.Consistent := by
    rw [ImportTracker.Grouping.members_inOrder]
    exact consistent
  have fits : ImportTracker.OneToOne
      (ImportTracker.allPairs (ImportTracker.Grouping.inOrder trackers).members) := by
    rw [ImportTracker.Grouping.members_inOrder]
    exact distinct.mono inside
  obtain ⟨result,computed⟩ := ImportTracker.Grouping.merged_complete listed fits
  obtain ⟨resultConsistent,pairs⟩ := ImportTracker.Grouping.merged_sound listed computed
  rw [ImportTracker.Grouping.members_inOrder] at pairs
  refine ⟨result,⟨resultConsistent,pairs ▸ inside⟩,pairs,fun grouping permuted => ?_⟩
  apply ImportTracker.Grouping.merged_unique listed _ computed
  rw [ImportTracker.Grouping.members_inOrder]
  exact permuted.symm

/-- Generators that share a table of aliases never meet a conflict. What they have gathered after any
calls in turns can be merged in every order and grouping, always with the same result: a tracker in
which each path has one alias and each alias one path. Every file that was handed over has the
imports that its generator brings into the merge. -/
theorem family_merges {known : Universe} {packages : PackagePaths} {outputs : List String}
    (ends : AliasTable.Ends (Informer.aliasedPaths known packages outputs) Informer.templateLocals)
    {size : Nat} (members : Fin size → GeneratorConfig × Name)
    (turns : List (Fin size × GeneratorCall)) :
    let table := Informer.aliasTable known packages outputs
    let family : Family size := fun place =>
      (create known (members place).1 (members place).2).withAliases table
    let answers := (family.run turns).1
    let last := (family.run turns).2
    (∀ told ∈ answers, ∀ error, told.2.error? ≠ some (.imports error)) ∧
    (∀ place, (last place).imports.Restricts table) ∧
    (∀ place file, (place,.generated (.ok (some file))) ∈ answers →
      file.imports = (last place).imports.lines) ∧
    ∃ result, result.Restricts table ∧ ImportTracker.OneToOne result.pairs ∧
      result.pairs = ImportTracker.allPairs last.trackers ∧
      ∀ grouping : ImportTracker.Grouping, grouping.members.Perm last.trackers →
        grouping.merged = .ok result := by
  intro table family answers last
  have distinct := Informer.oneToOne_aliasTable ends
  have sharing : family.Sharing table :=
    fun place => ⟨sound_create distinct known (members place).1 (members place).2,rfl⟩
  have still : last.Sharing table := sharing.run turns
  obtain ⟨result,restricts,pairs,merged⟩ := merged_of_restricts distinct still.restricts
  refine ⟨?_,?_,?_,result,restricts,restricts.consistent.oneToOne,pairs,merged⟩
  · exact fun told member error => sharing.error?_ne_imports turns error told member
  · intro place
    apply still.restricts
    exact (List.mem_ofFn' _ _).mpr ⟨place,rfl⟩
  · exact fun place file told => sharing.imports_of_generated told

/-- Two generators, one of which writes into the package of the controller; failures and other types
come in between. -/
theorem gadget_and_gear_merge :
    let gadget := TypeDescriptor.plain "api" "Gadget"
    let gear := TypeDescriptor.plain "api" "Gear"
    let known := Universe.ofPackages [
      (Package.bare "c").declareType (.plain "c" "Interface"),
      ((Package.bare "t/v1").declareType (.plain "t/v1" "GadgetInformer")).declareType
        (.plain "t/v1" "GearInformer"),
      (Package.bare "f").declareFunction "Get",
      (Package.bare "i").declareType (.plain "i" "SharedInformerFactory"),
      (Package.bare "j/v1").declareFunction "RegisterInformer",
      (Package.bare "k").declareType (.plain "k" "Informer")]
    let packages : PackagePaths := ⟨"c","t/v1","f","i","j/v1","k"⟩
    let table := Informer.aliasTable known packages ["out/gadget","k"]
    let members : Fin 2 → GeneratorConfig × Name := fun place =>
      if place = 0 then (⟨"out/gadget",⟨"example.com","v1",none⟩,packages,.standard⟩,gadget.name)
      else (⟨"k",⟨"example.com","v1",none⟩,packages,.standard⟩,gear.name)
    let family : Family 2 := fun place =>
      (create known (members place).1 (members place).2).withAliases table
    let turns : List (Fin 2 × GeneratorCall) := [(0,.generate gadget),(1,.write gear (.bounded 9)),
      (0,.generate gear),(1,.write gear .unbounded),(0,.write gadget (.chunked 8))]
    (family 0).obstacle? gadget = none ∧ (family 1).obstacle? gear = none ∧
      AliasTable.Ends (Informer.aliasedPaths known packages ["out/gadget","k"])
        Informer.templateLocals ∧
      ∃ result, result.Restricts table ∧
        ∀ grouping : ImportTracker.Grouping, grouping.members.Perm (family.run turns).2.trackers →
          grouping.merged = .ok result := by
  intro gadget gear known packages table members family turns
  have clear : (family 0).obstacle? gadget = none := by decide +kernel
  have otherClear : (family 1).obstacle? gear = none := by decide +kernel
  have ends : AliasTable.Ends (Informer.aliasedPaths known packages ["out/gadget","k"])
      Informer.templateLocals := AliasTable.ends_of_spellable (by decide +kernel) _
  obtain ⟨_,_,_,result,restricts,_,_,merged⟩ := family_merges ends members turns
  exact ⟨clear,otherClear,ends,result,restricts,merged⟩

end InformerGen.InformerGenerator
