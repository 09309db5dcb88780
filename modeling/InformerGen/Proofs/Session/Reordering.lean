import InformerGen.Proofs.Session

/-! The order in which a manifest declares packages and types makes no difference, nor does the order
or the repetition of functions and variables. What a manifest that keeps the rules declares has paths
and names that differ, so it makes one universe in every order. All else that a session does follows
from the universe and the settings. -/
namespace InformerGen

namespace PackageEntry

/-- The same declarations in another order; functions and variables may be repeated. -/
structure Reordered (first second : PackageEntry) : Prop where
  path : first.path = second.path
  types : first.types.Perm second.types
  functions : ∀ name, name ∈ first.functions ↔ name ∈ second.functions
  vars : ∀ name, name ∈ first.vars ↔ name ∈ second.vars

variable {first second : PackageEntry}

theorem Reordered.wellFormed (reordered : first.Reordered second) (formed : first.WellFormed) :
    second.WellFormed where
  path := reordered.path ▸ formed.path
  identifiers type member := formed.identifiers type (reordered.types.mem_iff.mpr member)
  distinct := (reordered.types.map _).nodup formed.distinct

theorem Reordered.toPackage_eq (reordered : first.Reordered second) (formed : first.WellFormed) :
    first.toPackage = second.toPackage := by
  have types : (OrderedMap.ofList (first.types.map fun type =>
        (type.name,type.toDescriptor first.path)) : OrderedMap TypeDescriptor) =
      .ofList (second.types.map fun type => (type.name,type.toDescriptor second.path)) := by
    rw [← reordered.path]
    apply OrderedMap.ofList_perm (reordered.types.map _)
    rw [List.map_map]
    exact formed.distinct
  rw [Package.toPackage_eq,Package.toPackage_eq,types,reordered.path,
    OrderedSet.ofTexts_congr reordered.functions,OrderedSet.ofTexts_congr reordered.vars]

end PackageEntry

namespace Manifest

/-- The same settings and the same declarations, the packages in another order and each of them with
what it declares in another order. -/
structure Reordered (first second : Manifest) : Prop where
  output : first.output = second.output
  group : first.group = second.group
  packages : first.packages = second.packages
  naming : first.naming = second.naming
  declared : ∃ middle, first.declared.Perm middle ∧
    List.Forall₂ PackageEntry.Reordered middle second.declared

variable {first second : Manifest}

theorem wellFormed_of_forall₂ {entries others : List PackageEntry}
    (related : List.Forall₂ PackageEntry.Reordered entries others)
    (formed : ∀ entry ∈ entries, entry.WellFormed) : ∀ entry ∈ others, entry.WellFormed := by
  induction related with
  | nil => exact List.forall_mem_nil _
  | cons head _ ih =>
    obtain ⟨first,rest⟩ := List.forall_mem_cons.mp formed
    exact List.forall_mem_cons.mpr ⟨head.wellFormed first,ih rest⟩

theorem map_toPackage_of_forall₂ {entries others : List PackageEntry}
    (related : List.Forall₂ PackageEntry.Reordered entries others)
    (formed : ∀ entry ∈ entries, entry.WellFormed) :
    (entries.map fun entry => (entry.path,entry.toPackage)) =
      others.map fun entry => (entry.path,entry.toPackage) := by
  induction related with
  | nil => rfl
  | cons head _ ih =>
    obtain ⟨first,rest⟩ := List.forall_mem_cons.mp formed
    rw [List.map_cons,List.map_cons,head.path,head.toPackage_eq first,ih rest]

theorem Reordered.kept (reordered : first.Reordered second) (kept : first.Kept) : second.Kept := by
  obtain ⟨middle,permuted,related⟩ := reordered.declared
  have formed : ∀ entry ∈ middle, entry.WellFormed :=
    fun entry member => kept.wellFormed entry (permuted.mem_iff.mpr member)
  refine ⟨reordered.output ▸ kept.output,reordered.group ▸ kept.group,
    reordered.packages ▸ kept.collaborators,checkPackages_eq_ok_iff.mpr ⟨?_,?_⟩⟩
  · exact fun entry member =>
      ⟨wellFormed_of_forall₂ related formed entry member,List.not_mem_nil⟩
  · have paths : middle.map (·.path) = second.declared.map (·.path) := by
      have same := congrArg (List.map Prod.fst) (map_toPackage_of_forall₂ related formed)
      rw [List.map_map,List.map_map] at same
      exact same
    rw [← paths]
    exact (permuted.map _).nodup kept.paths_nodup

theorem Reordered.known_eq (reordered : first.Reordered second) (kept : first.Kept) :
    first.known = second.known := by
  obtain ⟨middle,permuted,related⟩ := reordered.declared
  have formed : ∀ entry ∈ middle, entry.WellFormed :=
    fun entry member => kept.wellFormed entry (permuted.mem_iff.mpr member)
  rw [Universe.ofManifest_eq,Universe.ofManifest_eq,← map_toPackage_of_forall₂ related formed]
  apply congrArg Universe.mk
  apply OrderedMap.ofList_perm (permuted.map _)
  rw [List.map_map]
  exact kept.paths_nodup

end Manifest

namespace Session

/-- The sessions know the same declarations, give the same aliases and have the same settings. -/
structure Alike (one other : Session) : Prop where
  known : one.known = other.known
  aliases : one.aliases = other.aliases
  config : ∀ name, one.config name = other.config name

variable {one other : Session}

theorem Alike.packageFor (alike : one.Alike other) (name : Name) :
    one.packageFor name = other.packageFor name :=
  congrArg (·.outputPackage) (alike.config name)

theorem Alike.generate (alike : one.Alike other) (name : Name) :
    one.generate name = other.generate name := by
  have generator : one.generator? name = other.generator? name := by
    rw [generator?,generator?,alike.known,alike.config,alike.aliases]
  unfold Session.generate
  rw [alike.known,alike.packageFor,generator]

theorem Alike.eligible (alike : one.Alike other) : one.eligible = other.eligible := by
  rw [Session.eligible,Session.eligible,alike.known]

theorem Alike.rejectShared (alike : one.Alike other) (claimed : List (String × Name))
    (names : List Name) : one.rejectShared claimed names = other.rejectShared claimed names := by
  induction names generalizing claimed with
  | nil => rfl
  | cons name rest ih =>
    rw [Session.rejectShared,Session.rejectShared,alike.packageFor]
    cases claimed.lookup (other.packageFor name) with
    | some earlier => rfl
    | none => exact ih _

theorem Alike.generateEach (alike : one.Alike other) (names : List Name) :
    one.generateEach names = other.generateEach names := by
  induction names with
  | nil => rfl
  | cons name rest ih => rw [Session.generateEach,Session.generateEach,alike.generate,ih]

theorem Alike.generateAll (alike : one.Alike other) : one.generateAll = other.generateAll := by
  unfold Session.generateAll
  rw [alike.eligible]
  refine congrArg (other.eligible >>= ·) (funext fun types => ?_)
  dsimp only
  rw [alike.rejectShared]
  cases other.rejectShared [] (types.map (·.name)) with
  | error error => rfl
  | ok done => exact alike.generateEach _

theorem outputs_congr {first second : Manifest} (output : first.output = second.output)
    (known : Universe) : outputs first known = outputs second known := by
  refine List.map_congr_left fun type _ => ?_
  rw [Manifest.packageFor,Manifest.packageFor,output]

theorem aliasedPaths_of_reordered {first second : Manifest} (reordered : first.Reordered second)
    (kept : first.Kept) : aliasedPaths first = aliasedPaths second := by
  rw [aliasedPaths,aliasedPaths,reordered.known_eq kept,reordered.packages,
    outputs_congr reordered.output]

theorem alike_of_reordered {first second : Manifest} (reordered : first.Reordered second)
    (kept : first.Kept) : (ofManifest first).Alike (ofManifest second) := by
  refine ⟨reordered.known_eq kept,?_,fun name => ?_⟩
  · change AliasTable.build (aliasedPaths first) _ = AliasTable.build (aliasedPaths second) _
    rw [aliasedPaths_of_reordered reordered kept]
  · change (⟨first.packageFor name,first.group,first.packages,first.naming⟩ : GeneratorConfig) =
      ⟨second.packageFor name,second.group,second.packages,second.naming⟩
    rw [Manifest.packageFor,Manifest.packageFor,reordered.output,reordered.group,
      reordered.packages,reordered.naming]

/-- A manifest that keeps the rules may be reordered as one likes: the other one keeps them too, and
the sessions on both agree on the universe, on the aliases and whether there are any, on the types
to generate for and on all that is generated, be it files or failures. -/
theorem reordered_sessions_agree {first second : Manifest} (accepted : first.check = .ok ())
    (reordered : first.Reordered second) :
    let one := ofManifest first
    let other := ofManifest second
    second.Kept ∧
    (AliasTable.Ends (aliasedPaths first) Informer.templateLocals ↔
      AliasTable.Ends (aliasedPaths second) Informer.templateLocals) ∧
    one.known = other.known ∧ one.aliases = other.aliases ∧ one.eligible = other.eligible ∧
    (∀ name, one.generate name = other.generate name) ∧ one.generateAll = other.generateAll := by
  intro one other
  have kept : first.Kept := Manifest.check_eq_ok_iff.mp accepted
  have alike : one.Alike other := alike_of_reordered reordered kept
  have paths : aliasedPaths first = aliasedPaths second := aliasedPaths_of_reordered reordered kept
  exact ⟨reordered.kept kept,by rw [paths],alike.known,alike.aliases,alike.eligible,
    alike.generate,alike.generateAll⟩

/-- Packages and types have changed places, and a function is repeated. -/
theorem swapped_declarations_agree :
    let listed : PackageEntry := ⟨"c",[⟨"A",[],[],[]⟩,⟨"B",["+genclient"],[],[]⟩],["F","G"],[]⟩
    let swapped : PackageEntry := ⟨"c",[⟨"B",["+genclient"],[],[]⟩,⟨"A",[],[],[]⟩],["G","F","G"],[]⟩
    let other : PackageEntry := ⟨"d",[],[],[]⟩
    let manifest (declared : List PackageEntry) : Manifest :=
      ⟨"o",⟨"g","v",none⟩,⟨"c","c","c","c",PackagePaths.standardInjection,
        PackagePaths.standardController⟩,.standard,declared⟩
    (manifest [listed,other]).check = .ok () ∧
      (manifest [listed,other]).Reordered (manifest [other,swapped]) ∧
      (ofManifest (manifest [listed,other])).generateAll =
        (ofManifest (manifest [other,swapped])).generateAll := by
  intro listed swapped other manifest
  have accepted : (manifest [listed,other]).check = .ok () := by decide +kernel
  have inside : listed.Reordered swapped :=
    ⟨rfl,.swap _ _ _,by simp [listed,swapped,or_comm],by simp [listed,swapped]⟩
  have unchanged : other.Reordered other := ⟨rfl,.refl _,fun _ => .rfl,fun _ => .rfl⟩
  have reordered : (manifest [listed,other]).Reordered (manifest [other,swapped]) :=
    ⟨rfl,rfl,rfl,rfl,[other,listed],.swap _ _ _,.cons unchanged (.cons inside .nil)⟩
  obtain ⟨_,_,_,_,_,_,all⟩ := reordered_sessions_agree accepted reordered
  exact ⟨accepted,reordered,all⟩

end Session

end InformerGen
