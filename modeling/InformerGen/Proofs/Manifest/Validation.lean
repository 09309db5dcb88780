import InformerGen.Proofs.Manifest
import Mathlib.Control.Monad.Basic

/-! Which manifests are accepted, and what the others are refused for. The rules have an order: the
output, the group, the packages that generated code calls, and then the declared packages as the file
has them, each with its path before its types. A manifest is refused for the first rule that it breaks. -/
namespace InformerGen

structure GroupVersion.WellFormed (group : GroupVersion) : Prop where
  named : group.name ≠ "" ∨ group.goName ≠ none
  goName : Identifier.isIdentifier group.groupGoName = true
  version : group.version ≠ ""
  versionGoName : Identifier.isIdentifier group.versionGoName = true

namespace Manifest

open Identifier

structure WellFormed (manifest : Manifest) : Prop where
  output : Text.allBlank manifest.output = false
  group : manifest.group.WellFormed
  collaborators : ∀ entry ∈ manifest.packages.entries, Text.allBlank entry.2 = false
  declared : ∀ entry ∈ manifest.declared, entry.WellFormed
  distinct : (manifest.declared.map (·.path)).Nodup

/-- The first rule that the group breaks. -/
inductive GroupBreaks (group : GroupVersion) : Violation → Prop
  | unnamed (nameless : group.name = "") (plain : group.goName = none) :
      GroupBreaks group .unnamedGroup
  | goName (named : group.name ≠ "" ∨ group.goName ≠ none)
      (invalid : isIdentifier group.groupGoName = false) :
      GroupBreaks group (.groupGoName group.groupGoName)
  | emptyVersion (named : group.name ≠ "" ∨ group.goName ≠ none)
      (goName : isIdentifier group.groupGoName = true) (empty : group.version = "") :
      GroupBreaks group .emptyVersion
  | versionGoName (named : group.name ≠ "" ∨ group.goName ≠ none)
      (goName : isIdentifier group.groupGoName = true) (version : group.version ≠ "")
      (invalid : isIdentifier group.versionGoName = false) :
      GroupBreaks group (.versionGoName group.version)

def TypesFine (types : List TypeEntry) : Prop :=
  (∀ type ∈ types, isIdentifier type.name = true) ∧ (types.map (·.name)).Nodup

/-- The first of the types of a package that breaks a rule, after others that are fine. A name that is
among theirs stands there for the second time. -/
inductive TypesBreak (path : String) (types : List TypeEntry) : Violation → Prop
  | name {front back : List TypeEntry} {type : TypeEntry} (parts : types = front ++ type::back)
      (fine : TypesFine front) (invalid : isIdentifier type.name = false) :
      TypesBreak path types (.typeName type.name)
  | repeated {front back : List TypeEntry} {type : TypeEntry} (parts : types = front ++ type::back)
      (fine : TypesFine front) (valid : isIdentifier type.name = true)
      (again : type.name ∈ front.map (·.name)) :
      TypesBreak path types (.repeatedType path type.name)

def PackagesFine (entries : List PackageEntry) : Prop :=
  (∀ entry ∈ entries, entry.WellFormed) ∧ (entries.map (·.path)).Nodup

/-- The first of the declared packages that breaks a rule, by its path or else by its types. -/
inductive PackagesBreak (entries : List PackageEntry) : Violation → Prop
  | blankPath {front back : List PackageEntry} {entry : PackageEntry}
      (parts : entries = front ++ entry::back) (fine : PackagesFine front)
      (blank : Text.allBlank entry.path = true) : PackagesBreak entries .blankPath
  | repeatedPath {front back : List PackageEntry} {entry : PackageEntry}
      (parts : entries = front ++ entry::back) (fine : PackagesFine front)
      (filled : Text.allBlank entry.path = false) (again : entry.path ∈ front.map (·.path)) :
      PackagesBreak entries (.repeatedPath entry.path)
  | types {front back : List PackageEntry} {entry : PackageEntry} {violation : Violation}
      (parts : entries = front ++ entry::back) (fine : PackagesFine front)
      (filled : Text.allBlank entry.path = false) (fresh : entry.path ∉ front.map (·.path))
      (breaks : TypesBreak entry.path entry.types violation) : PackagesBreak entries violation

/-- The first rule that a manifest breaks. -/
inductive FirstBroken (manifest : Manifest) : Violation → Prop
  | output (blank : Text.allBlank manifest.output = true) : FirstBroken manifest .blankOutput
  | group {violation : Violation} (filled : Text.allBlank manifest.output = false)
      (breaks : GroupBreaks manifest.group violation) : FirstBroken manifest violation
  | collaborator {front back : List (String × String)} {key path : String}
      (filled : Text.allBlank manifest.output = false) (group : manifest.group.WellFormed)
      (parts : manifest.packages.entries = front ++ (key,path)::back)
      (before : ∀ entry ∈ front, Text.allBlank entry.2 = false)
      (blank : Text.allBlank path = true) : FirstBroken manifest (.blankCollaborator key)
  | declared {violation : Violation} (filled : Text.allBlank manifest.output = false)
      (group : manifest.group.WellFormed)
      (collaborators : ∀ entry ∈ manifest.packages.entries, Text.allBlank entry.2 = false)
      (breaks : PackagesBreak manifest.declared violation) : FirstBroken manifest violation

variable {ε α : Type} {violation : Violation}

theorem andThen_eq_error_iff {first : Except ε Unit} {second : Except ε α} {error : ε} :
    (first >>= fun _ => second) = .error error ↔
      first = .error error ∨ first = .ok () ∧ second = .error error := by
  cases first <;> simp [bind,Except.bind]

theorem demand_eq_error_iff {kept : Bool} {told : Violation} :
    demand kept violation = .error told ↔ kept = false ∧ told = violation := by
  cases kept <;> simp [demand,eq_comm]

/-- A walk through a list that asks about each entry, knowing the keys of those before, fails at the first
entry that is refused. -/
theorem walk_eq_error_iff {walk : List String → List α → Except ε Unit}
    {step : List String → α → Except ε Unit} (key : α → String)
    (ends : ∀ seen, walk seen [] = .ok ())
    (goesOn : ∀ seen entry rest,
      walk seen (entry::rest) = (step seen entry >>= fun _ => walk (key entry::seen) rest))
    {seen : List String} {entries : List α} {error : ε} : walk seen entries = .error error ↔
      ∃ front entry back, entries = front ++ entry::back ∧ walk seen front = .ok () ∧
        step ((front.map key).reverse ++ seen) entry = .error error := by
  have shifted (first : α) (front : List α) (seen : List String) :
      ((first::front).map key).reverse ++ seen = (front.map key).reverse ++ key first::seen := by
    simp
  induction entries generalizing seen with
  | nil => simp [ends]
  | cons first rest ih =>
    rw [goesOn,andThen_eq_error_iff]
    refine (or_congr_right (and_congr_right fun _ => ih)).trans ?_
    constructor
    · intro fails
      rcases fails with here | ⟨passed,front,entry,back,rfl,before,refused⟩
      · exact ⟨[],first,rest,rfl,ends seen,here⟩
      · refine ⟨first::front,entry,back,rfl,?_,?_⟩
        · rw [goesOn,andThen_eq_ok_iff]
          exact ⟨passed,before⟩
        · rwa [shifted]
    · intro fails
      obtain ⟨front,entry,back,parts,before,refused⟩ := fails
      cases front with
      | nil =>
        obtain ⟨rfl,rfl⟩ := List.cons.inj parts
        exact .inl refused
      | cons head front =>
        obtain ⟨rfl,rfl⟩ := List.cons.inj parts
        rw [goesOn,andThen_eq_ok_iff] at before
        rw [shifted] at refused
        exact .inr ⟨before.1,front,entry,back,rfl,before.2,refused⟩

theorem forM_eq_error_iff {entries : List α} {demanded : α → Except ε Unit} {error : ε} :
    entries.forM demanded = .error error ↔ ∃ front entry back, entries = front ++ entry::back ∧
      (∀ earlier ∈ front, demanded earlier = .ok ()) ∧ demanded entry = .error error := by
  simp only [← forM_eq_ok_iff]
  exact @walk_eq_error_iff ε α (fun _ entries => entries.forM demanded) (fun _ => demanded)
    (fun _ => "") (fun _ => rfl) (fun _ _ _ => rfl) [] entries error

theorem checkGroup_eq_ok_iff {group : GroupVersion} :
    checkGroup group = .ok () ↔ group.WellFormed := by
  simp only [checkGroup,andThen_eq_ok_iff,demand_eq_ok_iff]
  constructor
  · intro kept
    obtain ⟨named,goName,version,versionGoName⟩ := kept
    exact ⟨by simpa [Option.isSome_iff_ne_none] using named,goName,by simpa using version,
      versionGoName⟩
  · intro formed
    refine ⟨?_,formed.goName,?_,formed.versionGoName⟩
    · simpa [Option.isSome_iff_ne_none] using formed.named
    · simpa using formed.version

theorem checkGroup_eq_error_iff {group : GroupVersion} :
    checkGroup group = .error violation ↔ GroupBreaks group violation := by
  have named : (group.name != "" || group.goName.isSome) = true ↔
      group.name ≠ "" ∨ group.goName ≠ none := by simp [Option.isSome_iff_ne_none]
  have unnamed : (group.name != "" || group.goName.isSome) = false ↔
      group.name = "" ∧ group.goName = none := by simp
  simp only [checkGroup,andThen_eq_error_iff,demand_eq_error_iff,demand_eq_ok_iff,named,unnamed,
    bne_iff_ne,bne_eq_false_iff_eq]
  constructor
  · intro fails
    rcases fails with ⟨⟨nameless,plain⟩,rfl⟩ | ⟨named,⟨invalid,rfl⟩ | ⟨goName,⟨empty,rfl⟩ |
      ⟨version,invalid,rfl⟩⟩⟩
    · exact .unnamed nameless plain
    · exact .goName named invalid
    · exact .emptyVersion named goName empty
    · exact .versionGoName named goName version invalid
  · intro breaks
    cases breaks with
    | unnamed nameless plain => exact .inl ⟨⟨nameless,plain⟩,rfl⟩
    | goName named invalid => exact .inr ⟨named,.inl ⟨invalid,rfl⟩⟩
    | emptyVersion named goName empty => exact .inr ⟨named,.inr ⟨goName,.inl ⟨empty,rfl⟩⟩⟩
    | versionGoName named goName version invalid =>
      exact .inr ⟨named,.inr ⟨goName,.inr ⟨version,invalid,rfl⟩⟩⟩

theorem checkTypes_nil_eq_ok_iff {path : String} {types : List TypeEntry} :
    checkTypes path [] types = .ok () ↔ TypesFine types := by
  rw [checkTypes_eq_ok_iff,TypesFine]
  simp

def checkType (path : String) (seen : List String) (type : TypeEntry) : Except Violation Unit := do
  demand (isIdentifier type.name) (.typeName type.name)
  demand (!seen.contains type.name) (.repeatedType path type.name)

def checkPackage (seen : List String) (entry : PackageEntry) : Except Violation Unit := do
  demand (!Text.allBlank entry.path) .blankPath
  demand (!seen.contains entry.path) (.repeatedPath entry.path)
  checkTypes entry.path [] entry.types

theorem checkTypes_eq_error_iff {path : String} {types : List TypeEntry} :
    checkTypes path [] types = .error violation ↔ TypesBreak path types violation := by
  have goesOn (seen : List String) (type : TypeEntry) (rest : List TypeEntry) :
      checkTypes path seen (type::rest) =
        (checkType path seen type >>= fun _ => checkTypes path (type.name::seen) rest) := by
    rw [checkTypes,checkType,bind_assoc]
  have step (front : List TypeEntry) (type : TypeEntry) :
      checkType path ((front.map (·.name)).reverse ++ []) type = .error violation ↔
        (isIdentifier type.name = false ∧ violation = .typeName type.name) ∨
        (isIdentifier type.name = true ∧ type.name ∈ front.map (·.name) ∧
          violation = .repeatedType path type.name) := by
    simp only [checkType,andThen_eq_error_iff,demand_eq_error_iff,demand_eq_ok_iff,List.append_nil,
      Bool.not_eq_false',List.contains_iff_mem,List.mem_reverse]
  simp only [@walk_eq_error_iff _ _ (checkTypes path) (checkType path) (·.name) (fun _ => rfl) goesOn,
    checkTypes_nil_eq_ok_iff,step]
  constructor
  · intro fails
    obtain ⟨front,type,back,parts,fine,⟨invalid,rfl⟩ | ⟨valid,again,rfl⟩⟩ := fails
    · exact .name parts fine invalid
    · exact .repeated parts fine valid again
  · intro breaks
    cases breaks with
    | name parts fine invalid => exact ⟨_,_,_,parts,fine,.inl ⟨invalid,rfl⟩⟩
    | repeated parts fine valid again => exact ⟨_,_,_,parts,fine,.inr ⟨valid,again,rfl⟩⟩

theorem checkPackages_nil_eq_ok_iff {entries : List PackageEntry} :
    checkPackages [] entries = .ok () ↔ PackagesFine entries := by
  rw [checkPackages_eq_ok_iff,PackagesFine]
  simp

theorem checkPackages_eq_error_iff {entries : List PackageEntry} :
    checkPackages [] entries = .error violation ↔ PackagesBreak entries violation := by
  have goesOn (seen : List String) (entry : PackageEntry) (rest : List PackageEntry) :
      checkPackages seen (entry::rest) =
        (checkPackage seen entry >>= fun _ => checkPackages (entry.path::seen) rest) := by
    rw [checkPackages,checkPackage,bind_assoc]
    simp only [bind_assoc]
  have step (front : List PackageEntry) (entry : PackageEntry) :
      checkPackage ((front.map (·.path)).reverse ++ []) entry = .error violation ↔
        (Text.allBlank entry.path = true ∧ violation = .blankPath) ∨
        (Text.allBlank entry.path = false ∧
          ((entry.path ∈ front.map (·.path) ∧ violation = .repeatedPath entry.path) ∨
          (entry.path ∉ front.map (·.path) ∧
            TypesBreak entry.path entry.types violation))) := by
    simp only [checkPackage,andThen_eq_error_iff,demand_eq_error_iff,demand_eq_ok_iff,
      List.append_nil,Bool.not_eq_false',Bool.not_eq_true',List.contains_eq_mem,decide_eq_true_eq,
      decide_eq_false_iff_not,List.mem_reverse,checkTypes_eq_error_iff]
  simp only [@walk_eq_error_iff _ _ checkPackages checkPackage (·.path) (fun _ => rfl) goesOn,
    checkPackages_nil_eq_ok_iff,step]
  constructor
  · intro fails
    obtain ⟨front,entry,back,parts,fine,⟨blank,rfl⟩ | ⟨filled,⟨again,rfl⟩ | ⟨fresh,breaks⟩⟩⟩ := fails
    · exact .blankPath parts fine blank
    · exact .repeatedPath parts fine filled again
    · exact .types parts fine filled fresh breaks
  · intro breaks
    cases breaks with
    | blankPath parts fine blank => exact ⟨_,_,_,parts,fine,.inl ⟨blank,rfl⟩⟩
    | repeatedPath parts fine filled again =>
      exact ⟨_,_,_,parts,fine,.inr ⟨filled,.inl ⟨again,rfl⟩⟩⟩
    | types parts fine filled fresh breaks =>
      exact ⟨_,_,_,parts,fine,.inr ⟨filled,.inr ⟨fresh,breaks⟩⟩⟩

theorem kept_iff_wellFormed {manifest : Manifest} : manifest.Kept ↔ manifest.WellFormed := by
  constructor
  · intro kept
    exact ⟨kept.output,checkGroup_eq_ok_iff.mp kept.group,kept.collaborators,kept.wellFormed,
      kept.paths_nodup⟩
  · intro formed
    exact ⟨formed.output,checkGroup_eq_ok_iff.mpr formed.group,formed.collaborators,
      checkPackages_nil_eq_ok_iff.mpr ⟨formed.declared,formed.distinct⟩⟩

theorem check_eq_error_iff {manifest : Manifest} :
    manifest.check = .error violation ↔ manifest.FirstBroken violation := by
  simp only [check,andThen_eq_error_iff,forM_eq_error_iff,forM_eq_ok_iff,demand_eq_error_iff,
    demand_eq_ok_iff,checkGroup_eq_error_iff,checkGroup_eq_ok_iff,checkPackages_eq_error_iff,
    Bool.not_eq_false',Bool.not_eq_true']
  constructor
  · intro fails
    rcases fails with ⟨blank,rfl⟩ | ⟨filled,breaks | ⟨group,
      ⟨front,⟨key,path⟩,back,parts,before,blank,rfl⟩ | ⟨collaborators,breaks⟩⟩⟩
    · exact .output blank
    · exact .group filled breaks
    · exact .collaborator filled group parts before blank
    · exact .declared filled group collaborators breaks
  · intro broken
    cases broken with
    | output blank => exact .inl ⟨blank,rfl⟩
    | group filled breaks => exact .inr ⟨filled,.inl breaks⟩
    | collaborator filled group parts before blank =>
      exact .inr ⟨filled,.inr ⟨group,.inl ⟨_,_,_,parts,before,blank,rfl⟩⟩⟩
    | declared filled group collaborators breaks =>
      exact .inr ⟨filled,.inr ⟨group,.inr ⟨collaborators,breaks⟩⟩⟩

/-- A manifest is accepted just if it is well formed, and refused for the first rule that it breaks. The
same holds of reading a text: the error tells this rule, and the place where the text mentions what
breaks it. -/
theorem accepted_or_first_broken (manifest : Manifest) :
    (manifest.check = .ok () ↔ manifest.WellFormed) ∧
    (∀ violation, manifest.check = .error violation ↔ manifest.FirstBroken violation) ∧
    ∀ source : ManifestSource, (Toml.parse? source.text).bind ofToml? = some manifest →
      (parse source = .ok manifest ↔ manifest.WellFormed) ∧
      ∀ error, parse source = .error error ↔ ∃ violation, manifest.FirstBroken violation ∧
        error = source.tell violation.needle violation.problem := by
  have accepted : manifest.check = .ok () ↔ manifest.WellFormed :=
    check_eq_ok_iff.trans kept_iff_wellFormed
  refine ⟨accepted,fun violation => check_eq_error_iff,fun source decoded => ?_⟩
  simp only [← accepted,← check_eq_error_iff,parse,decoded]
  cases manifest.check with
  | ok => simp
  | error violation => simp [eq_comm]

/-- The second package is told of, since it names a type twice, and not the third, which has the path of
the first. -/
theorem repeated_type_told :
    let text := "output=[\"o\"]\ngroup=[\"g\",\"v\"]\npackages=[\"c\",\"c\",\"c\",\"c\"]\n" ++
      "universe=[[[\"p\",[[\"T\"]]],[\"q\",[[\"A\"],[\"B\"],[\"A\"]]],[\"p\"]]]"
    let manifest : Manifest := ⟨"o",⟨"g","v",none⟩,
      ⟨"c","c","c","c",PackagePaths.standardInjection,PackagePaths.standardController⟩,.standard,
      [⟨"p",[⟨"T",[],[],[]⟩],[],[]⟩,
        ⟨"q",[⟨"A",[],[],[]⟩,⟨"B",[],[],[]⟩,⟨"A",[],[],[]⟩],[],[]⟩,⟨"p",[],[],[]⟩]⟩
    (Toml.parse? text).bind ofToml? = some manifest ∧
      manifest.FirstBroken (.repeatedType "q" "A") ∧ ¬manifest.WellFormed ∧
      parse ⟨"m",text⟩ = .error (.invalid "m" (some ⟨89,1⟩) (.duplicate "type in 'q'" "A")) := by
  intro text manifest
  have decoded : (Toml.parse? text).bind ofToml? = some manifest := by decide +kernel
  have refused : manifest.check = .error (.repeatedType "q" "A") := by decide +kernel
  obtain ⟨accepted,broken,told⟩ := accepted_or_first_broken manifest
  have first := (broken _).mp refused
  have refusal := ((told ⟨"m",text⟩ decoded).2 _).mpr ⟨_,first,rfl⟩
  refine ⟨decoded,first,fun formed => ?_,refusal.trans (by decide +kernel)⟩
  rw [accepted.mpr formed] at refused
  cases refused

end Manifest

end InformerGen
