import InformerGen.Proofs.Directive
import Mathlib.Data.List.Induction

/-! Collecting the directives of some lines by their keys. The keys come in the order in which they first
occur, and the groups together hold what the lines hold, each directive behind those with its key before
it. -/
namespace InformerGen

theorem eraseDups_concat {α : Type} [BEq α] [LawfulBEq α] (items : List α) (last : α) :
    (items ++ [last]).eraseDups = items.eraseDups ++ if items.elem last then [] else [last] := by
  rw [List.eraseDups_append,List.removeAll,List.filter_singleton]
  cases items.elem last <;> rfl

theorem eraseDups_pairwise {α : Type} [BEq α] [LawfulBEq α] (items : List α) :
    items.eraseDups.Pairwise fun first second =>
      ∃ before after, items = before ++ after ∧ first ∈ before ∧ second ∉ before := by
  induction items using List.reverseRecOn with
  | nil => exact .nil
  | append_singleton items last ih =>
    have kept : items.eraseDups.Pairwise fun first second =>
        ∃ before after, items ++ [last] = before ++ after ∧ first ∈ before ∧ second ∉ before := by
      refine ih.imp ?_
      rintro first second ⟨before,after,rfl,inside,outside⟩
      exact ⟨before,after ++ [last],List.append_assoc _ _ _,inside,outside⟩
    rw [eraseDups_concat]
    -- The last item is listed at the end, unless it has been met before.
    split
    next => rwa [List.append_nil]
    next fresh =>
      rw [List.pairwise_append]
      refine ⟨kept,List.pairwise_singleton _ last,?_⟩
      intro first listed second added
      obtain rfl := List.mem_singleton.mp added
      exact ⟨items,[second],rfl,List.mem_eraseDups.mp listed,by simpa using fresh⟩

namespace Directive

variable {marker key : String} {lines : List String} {directive : Directive}
  {directives : List Directive}

/-- Some first part of the lines has the one key and not the other. -/
def CarriedBefore (marker : String) (lines : List String) (first second : String) : Prop :=
  ∃ before after, lines = before ++ after ∧ Carried marker before first ∧ ¬Carried marker before second

theorem mem_keys : key ∈ keys (ofLines marker lines) ↔ Carried marker lines key := by
  rw [keys,List.mem_eraseDups,carried_iff_mem]

theorem keys_pairwise (marker : String) (lines : List String) :
    (keys (ofLines marker lines)).Pairwise (CarriedBefore marker lines) := by
  refine (eraseDups_pairwise _).imp ?_
  rintro first second ⟨before,after,parts,inside,outside⟩
  obtain ⟨directives,others,listed,rfl,rfl⟩ := List.map_eq_append_iff.mp parts
  obtain ⟨front,back,rfl,rfl,rfl⟩ := List.filterMap_eq_append_iff.mp listed
  refine ⟨front,back,rfl,carried_iff_mem.mpr inside,fun carried => outside ?_⟩
  exact carried_iff_mem.mp carried

theorem keys_nodup (directives : List Directive) : (keys directives).Nodup := by
  refine (eraseDups_pairwise _).imp ?_
  rintro first second ⟨before,_,_,inside,outside⟩ rfl
  exact outside inside

theorem keys_concat (directives : List Directive) (directive : Directive) :
    keys (directives ++ [directive]) =
      keys directives ++ if directive.key ∈ keys directives then [] else [directive.key] := by
  simp only [keys,List.map_append,List.map_singleton,eraseDups_concat,List.mem_eraseDups,
    List.elem_iff]

theorem withKey_concat (key : String) (directives : List Directive) (directive : Directive) :
    withKey key (directives ++ [directive]) =
      withKey key directives ++ if directive.key = key then [directive] else [] := by
  simp only [withKey,List.filter_append,List.filter_cons,List.filter_nil,beq_iff_eq]

theorem withKey_eq_nil (fresh : key ∉ keys directives) : withKey key directives = [] := by
  rw [withKey,List.filter_eq_nil_iff]
  intro directive member same
  refine fresh (List.mem_eraseDups.mpr ?_)
  exact beq_iff_eq.mp same ▸ List.mem_map_of_mem member

theorem addToGroup_map {listed : List String} (distinct : listed.Nodup) (directive : Directive)
    (groups : String → List Directive) :
    addToGroup directive (listed.map fun key => (key,groups key)) =
      (listed.map fun key => (key,groups key ++ if directive.key = key then [directive] else [])) ++
        if directive.key ∈ listed then [] else [(directive.key,[directive])] := by
  induction listed with
  | nil => rfl
  | cons first rest ih =>
    obtain ⟨apart,others⟩ := List.nodup_cons.mp distinct
    rw [List.map_cons,List.map_cons,addToGroup]
    by_cases same : directive.key = first
    · subst same
      have untouched : (rest.map fun key => (key,groups key)) = rest.map fun key =>
          (key,groups key ++ if directive.key = key then [directive] else []) := by
        refine List.map_congr_left fun key member => ?_
        have other : directive.key ≠ key := by
          rintro rfl
          exact apart member
        rw [if_neg other,List.append_nil]
      simp [untouched]
    · simp [ih others,same,Ne.symm same]

/-- The groups are those that a look at all directives for each key would give. -/
theorem byKey_eq (directives : List Directive) :
    byKey directives = (keys directives).map fun key => (key,withKey key directives) := by
  induction directives using List.reverseRecOn with
  | nil => rfl
  | append_singleton directives directive ih =>
    have step : byKey (directives ++ [directive]) = addToGroup directive (byKey directives) := by
      rw [byKey,List.foldl_append,List.foldl_cons,List.foldl_nil,byKey]
    simp only [step,ih,addToGroup_map (keys_nodup directives),keys_concat,withKey_concat,
      List.map_append]
    split
    next => rfl
    next fresh => simp [withKey_eq_nil fresh]

theorem map_fst_byKey (directives : List Directive) : (byKey directives).map (·.1) = keys directives := by
  rw [byKey_eq,List.map_map]
  exact List.map_id _

theorem mem_byKey {group : String × List Directive} : group ∈ byKey directives ↔
    group.1 ∈ keys directives ∧ group.2 = withKey group.1 directives := by
  rw [byKey_eq,List.mem_map]
  constructor
  · rintro ⟨key,listed,rfl⟩
    exact ⟨listed,rfl⟩
  · rintro ⟨listed,same⟩
    exact ⟨group.1,listed,by rw [← same]⟩

/-- The directives with a key, one for each line that carries it and in the order of the lines. -/
inductive Gathered (marker key : String) : List String → List Directive → Prop
  | nil : Gathered marker key [] []
  | carried {line value : String} {rest : List String} {directives : List Directive}
      (carries : Carries marker line key value) (later : Gathered marker key rest directives) :
      Gathered marker key (line::rest) (⟨key,value,Text.trim line⟩::directives)
  | passed {line : String} {rest : List String} {directives : List Directive}
      (other : ∀ value, ¬Carries marker line key value) (later : Gathered marker key rest directives) :
      Gathered marker key (line::rest) directives

theorem gathered_withKey (marker key : String) (lines : List String) :
    Gathered marker key lines (withKey key (ofLines marker lines)) := by
  rw [withKey,ofLines,List.filter_filterMap]
  induction lines with
  | nil => exact .nil
  | cons line rest ih =>
    rw [List.filterMap_cons]
    split
    next passed => exact .passed (filter_ofLine?_eq_none_iff.mp passed) ih
    next directive found =>
      obtain ⟨rfl,trimmed,carries⟩ := filter_ofLine?_eq_some_iff.mp found
      have same : directive = ⟨directive.key,directive.value,Text.trim line⟩ := by rw [← trimmed]
      exact same ▸ .carried carries ih

theorem flatMap_withKey_perm {listed : List String} (distinct : listed.Nodup)
    (complete : ∀ directive ∈ directives, directive.key ∈ listed) :
    (listed.flatMap fun key => withKey key directives).Perm directives := by
  induction listed generalizing directives with
  | nil =>
    cases directives with
    | nil => exact .nil
    | cons directive rest => exact absurd (complete directive List.mem_cons_self) List.not_mem_nil
  | cons key rest ih =>
    obtain ⟨apart,others⟩ := List.nodup_cons.mp distinct
    let remaining := directives.filter fun directive => !(directive.key == key)
    have same : (rest.flatMap fun other => withKey other directives) =
        rest.flatMap fun other => withKey other remaining := by
      refine List.flatMap_congr fun other member => ?_
      rw [withKey,withKey,List.filter_filter]
      refine List.filter_congr fun directive _ => ?_
      by_cases found : directive.key = other
      · have kept : directive.key ≠ key := by
          rintro rfl
          exact apart (found ▸ member)
        simp [found,found ▸ kept]
      · simp [found]
    have within : ∀ directive ∈ remaining, directive.key ∈ rest := by
      intro directive member
      obtain ⟨inside,other⟩ := List.mem_filter.mp member
      exact (List.mem_cons.mp (complete directive inside)).resolve_left (by simpa using other)
    rw [List.flatMap_cons,same]
    exact ((ih others within).append_left _).trans (List.filter_append_perm _ _)

theorem map_line_ofLine? (marker line : String) : (ofLine? marker line).map (·.line) =
    if marker.toList.isPrefixOf (Text.trim line).toList then some (Text.trim line) else none := by
  cases read : ofLine? marker line with
  | none =>
    have unopened := Text.isPrefixOf?_eq_none_iff.mp (Option.map_eq_none_iff.mp read)
    rw [if_neg (fun opens => unopened (List.isPrefixOf_iff_prefix.mp opens)),Option.map_none]
  | some directive =>
    obtain ⟨rest,opened,_⟩ := Option.map_eq_some_iff.mp read
    have spelling := Text.isPrefixOf?_eq_some opened
    rw [if_pos (List.isPrefixOf_iff_prefix.mpr ⟨rest,spelling.symm⟩),Option.map_some,
      line_of_ofLine? read]

theorem map_line_ofLines (marker : String) (lines : List String) :
    (ofLines marker lines).map (·.line) =
      (lines.map Text.trim).filter fun line => marker.toList.isPrefixOf line.toList := by
  rw [ofLines,List.map_filterMap,List.filter_map,← List.filterMap_eq_filter,List.map_filterMap]
  refine List.filterMap_congr fun line _ => ?_
  rw [map_line_ofLine?]
  simp [Option.guard]

/-- What some lines say by directives, collected by their keys: the keys that are carried, in the order in
which they first are, and for each of them all directives, read off the lines. -/
structure Collects (marker : String) (lines : List String) (groups : List (String × List Directive)) :
    Prop where
  keys : ∀ key, key ∈ groups.map (·.1) ↔ Carried marker lines key
  distinct : (groups.map (·.1)).Nodup
  ordered : (groups.map (·.1)).Pairwise (CarriedBefore marker lines)
  gathered : ∀ group ∈ groups, Gathered marker group.1 lines group.2
  filled : ∀ group ∈ groups, group.2 ≠ []
  spelled : ∀ group ∈ groups, ∀ directive ∈ group.2, directive.key = group.1 ∧
    '=' ∉ directive.key.toList ∧ (directive.line = marker ++ directive.key ∧ directive.value = "" ∨
      directive.line = marker ++ directive.key ++ "=" ++ directive.value)
  all : ((groups.flatMap (·.2)).map (·.line)).Perm
    ((lines.map Text.trim).filter fun line => marker.toList.isPrefixOf line.toList)

theorem collects_byKey (marker : String) (lines : List String) :
    Collects marker lines (byKey (ofLines marker lines)) where
  keys key := by rw [map_fst_byKey,mem_keys]
  distinct := by
    rw [map_fst_byKey]
    exact keys_nodup _
  ordered := by
    rw [map_fst_byKey]
    exact keys_pairwise marker lines
  gathered group member := by
    rw [(mem_byKey.mp member).2]
    exact gathered_withKey marker group.1 lines
  filled group member := by
    obtain ⟨listed,same⟩ := mem_byKey.mp member
    obtain ⟨directive,inside,found⟩ := List.mem_map.mp (List.mem_eraseDups.mp listed)
    rw [same]
    exact List.ne_nil_of_mem (List.mem_filter.mpr ⟨inside,beq_iff_eq.mpr found⟩)
  spelled group member directive inside := by
    rw [(mem_byKey.mp member).2] at inside
    obtain ⟨listed,found⟩ := List.mem_filter.mp inside
    obtain ⟨line,_,trimmed,undivided,spelling⟩ := mem_ofLines.mp listed
    rw [← trimmed] at spelling
    exact ⟨beq_iff_eq.mp found,undivided,spelling⟩
  all := by
    rw [← map_line_ofLines]
    refine List.Perm.map _ ?_
    rw [byKey_eq,List.flatMap_map]
    exact flatMap_withKey_perm (keys_nodup _) fun directive member =>
      List.mem_eraseDups.mpr (List.mem_map_of_mem member)

theorem lookup_byKey (key : String) (directives : List Directive) :
    ((byKey directives).lookup key).bind List.getLast? = last? key directives := by
  rw [byKey_eq,last?]
  by_cases listed : key ∈ keys directives
  · rw [List.lookup_graph _ listed,Option.bind_some]
  · have nowhere : ((keys directives).map fun key => (key,withKey key directives)).lookup key =
        none := by
      rw [List.lookup_eq_none_iff]
      rintro _ member
      obtain ⟨other,known,rfl⟩ := List.mem_map.mp member
      exact bne_iff_ne.mpr fun same => listed (same ▸ known)
    rw [nowhere,withKey_eq_nil listed,Option.bind_none,List.getLast?_nil]

/-- Collecting directives neither loses nor makes up any, and the value of a key is that of the last
directive with it, which is the last of its group. -/
theorem directives_collected :
    (∀ marker lines, Collects marker lines (byKey (ofLines marker lines))) ∧
    ∀ (lines : List String) (key : String),
      lastValue? key lines =
        (((byKey (ofLines defaultMarker lines)).lookup key).bind List.getLast?).map (·.value) ∧
      ∀ value, lastValue? key lines = some value ↔ ∃ line, Decides lines line key value :=
  ⟨collects_byKey,fun lines key =>
    ⟨by rw [lookup_byKey,lastValue?],fun value => lastValue?_eq_some_iff⟩⟩

/-- A marker with an equals sign in it. -/
example : byKey (ofLines "+=" ["+=b=1\t"," +=a==","+b","+=b"]) =
    [("b",[⟨"b","1","+=b=1"⟩,⟨"b","","+=b"⟩]),("a",[⟨"a","=","+=a=="⟩])] := by decide

end Directive

end InformerGen
