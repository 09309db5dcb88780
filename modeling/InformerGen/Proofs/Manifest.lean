import InformerGen.Manifest.Validation

/-! A manifest is accepted just if it keeps the rules. -/
namespace InformerGen.PackageEntry

/-- The package has a path, and types that are named by identifiers, each once. -/
structure WellFormed (entry : PackageEntry) : Prop where
  path : Text.allBlank entry.path = false
  identifiers : ∀ type ∈ entry.types, Identifier.isIdentifier type.name = true
  distinct : (entry.types.map (·.name)).Nodup

end InformerGen.PackageEntry

namespace InformerGen.Manifest

variable {ε α : Type}

theorem andThen_eq_ok_iff {first : Except ε Unit} {second : Except ε α} {value : α} :
    (first >>= fun _ => second) = .ok value ↔ first = .ok () ∧ second = .ok value := by
  cases first with
  | error error => exact iff_of_false (nomatch ·) (fun both => nomatch both.1)
  | ok done => exact (and_iff_right rfl).symm

theorem forM_eq_ok_iff {entries : List α} {demanded : α → Except ε Unit} :
    entries.forM demanded = .ok () ↔ ∀ entry ∈ entries, demanded entry = .ok () := by
  induction entries with
  | nil => exact iff_of_true rfl (List.forall_mem_nil _)
  | cons entry rest ih =>
    rw [List.forall_mem_cons,← ih]
    exact andThen_eq_ok_iff

theorem demand_eq_ok_iff {kept : Bool} {violation : Violation} :
    demand kept violation = .ok () ↔ kept = true := by
  cases kept <;> simp [demand]

/-- The rules, those about the group and about the declared packages in the form of their checks. -/
structure Kept (manifest : Manifest) : Prop where
  output : Text.allBlank manifest.output = false
  group : checkGroup manifest.group = .ok ()
  collaborators : ∀ entry ∈ manifest.packages.entries, Text.allBlank entry.2 = false
  declared : checkPackages [] manifest.declared = .ok ()

theorem check_eq_ok_iff {manifest : Manifest} : manifest.check = .ok () ↔ manifest.Kept := by
  simp only [check,andThen_eq_ok_iff,forM_eq_ok_iff,demand_eq_ok_iff,Bool.not_eq_true']
  exact ⟨fun ⟨output,group,collaborators,declared⟩ => ⟨output,group,collaborators,declared⟩,
    fun kept => ⟨kept.output,kept.group,kept.collaborators,kept.declared⟩⟩

theorem unseen_cons_iff (key : α → String) {good : α → Prop} {seen : List String} {entry : α}
    {rest : List α} :
    (∀ other ∈ rest, good other ∧ key other ∉ key entry::seen) ∧ (rest.map key).Nodup ↔
      (∀ other ∈ rest, good other ∧ key other ∉ seen) ∧ ((entry::rest).map key).Nodup := by
  rw [List.map_cons,List.nodup_cons,List.mem_map,← and_assoc]
  refine and_congr_left fun _ => ⟨fun unseen => ⟨fun other member => ?_,?_⟩,?_⟩
  · obtain ⟨fine,fresh⟩ := unseen other member
    exact ⟨fine,fun known => fresh (List.mem_cons_of_mem _ known)⟩
  · rintro ⟨other,member,same⟩
    exact (unseen other member).2 (List.mem_cons.mpr (.inl same))
  · rintro ⟨unseen,apart⟩ other member
    obtain ⟨fine,fresh⟩ := unseen other member
    refine ⟨fine,fun known => ?_⟩
    rcases List.mem_cons.mp known with same | before
    · exact apart ⟨other,member,same⟩
    · exact fresh before

theorem checkTypes_eq_ok_iff {path : String} {seen : List String} {entries : List TypeEntry} :
    checkTypes path seen entries = .ok () ↔
      (∀ entry ∈ entries, Identifier.isIdentifier entry.name = true ∧ entry.name ∉ seen) ∧
        (entries.map (·.name)).Nodup := by
  induction entries generalizing seen with
  | nil => exact iff_of_true rfl ⟨List.forall_mem_nil _,List.nodup_nil⟩
  | cons entry rest ih =>
    rw [checkTypes,andThen_eq_ok_iff,andThen_eq_ok_iff,demand_eq_ok_iff,demand_eq_ok_iff,ih,
      unseen_cons_iff TypeEntry.name,List.forall_mem_cons,and_assoc,and_assoc]
    simp

theorem wellFormed_iff {entry : PackageEntry} : entry.WellFormed ↔
    Text.allBlank entry.path = false ∧ checkTypes entry.path [] entry.types = .ok () := by
  rw [checkTypes_eq_ok_iff]
  constructor
  · intro formed
    exact ⟨formed.path,fun type member => ⟨formed.identifiers type member,List.not_mem_nil⟩,
      formed.distinct⟩
  · rintro ⟨path,types,distinct⟩
    exact ⟨path,fun type member => (types type member).1,distinct⟩

theorem checkPackages_eq_ok_iff {seen : List String} {entries : List PackageEntry} :
    checkPackages seen entries = .ok () ↔
      (∀ entry ∈ entries, entry.WellFormed ∧ entry.path ∉ seen) ∧
        (entries.map (·.path)).Nodup := by
  induction entries generalizing seen with
  | nil => exact iff_of_true rfl ⟨List.forall_mem_nil _,List.nodup_nil⟩
  | cons entry rest ih =>
    rw [checkPackages,andThen_eq_ok_iff,andThen_eq_ok_iff,andThen_eq_ok_iff,demand_eq_ok_iff,
      demand_eq_ok_iff,ih,unseen_cons_iff PackageEntry.path,List.forall_mem_cons,
      wellFormed_iff,Bool.not_eq_true',Bool.not_eq_true',List.contains_eq_mem,decide_eq_false_iff_not]
    constructor
    · rintro ⟨path,fresh,types,others,distinct⟩
      exact ⟨⟨⟨⟨path,types⟩,fresh⟩,others⟩,distinct⟩
    · rintro ⟨⟨⟨⟨path,types⟩,fresh⟩,others⟩,distinct⟩
      exact ⟨path,fresh,types,others,distinct⟩

theorem Kept.wellFormed {manifest : Manifest} (kept : manifest.Kept) :
    ∀ entry ∈ manifest.declared, entry.WellFormed :=
  fun entry member => ((checkPackages_eq_ok_iff.mp kept.declared).1 entry member).1

theorem Kept.paths_nodup {manifest : Manifest} (kept : manifest.Kept) :
    (manifest.declared.map (·.path)).Nodup :=
  (checkPackages_eq_ok_iff.mp kept.declared).2

theorem Kept.ne_empty {manifest : Manifest} (kept : manifest.Kept) {path : String}
    (member : path ∈ manifest.packages.entries.map (·.2)) : path ≠ "" := by
  rintro rfl
  obtain ⟨entry,inside,same⟩ := List.mem_map.mp member
  have filled := kept.collaborators entry inside
  rw [same] at filled
  cases filled

end InformerGen.Manifest
