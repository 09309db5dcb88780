import InformerGen.OrderedMap
import Mathlib.Data.List.Nodup

/-! Ordered maps are known by their look-ups: equal answers for every key mean equal maps. The
entries that a map lists are the ones that it looks up, so a map does not remember in which order
or how often it was told them. -/
namespace InformerGen

namespace OrderedMap

universe u

variable {β : Type u}

theorem mem_of_lookup {key : String} {value : β} {entries : List (String × β)}
    (found : entries.lookup key = some value) : (key,value) ∈ entries := by
  obtain ⟨before,after,rfl,_⟩ := List.lookup_eq_some_iff.mp found
  simp

theorem lookup_eq_some_iff_mem {key : String} {value : β} {entries : List (String × β)}
    (distinct : (entries.map (·.1)).Nodup) :
    entries.lookup key = some value ↔ (key,value) ∈ entries := by
  refine ⟨mem_of_lookup,fun member => ?_⟩
  have known : (entries.lookup key).isSome := by
    rw [List.lookup_isSome_iff]
    exact ⟨_,member,by simp⟩
  obtain ⟨other,found⟩ := Option.isSome_iff_exists.mp known
  have same : (key,other) = (key,value) :=
    List.inj_on_of_nodup_map distinct (mem_of_lookup found) member rfl
  rw [found,(Prod.mk.inj same).2]

theorem keys_ascending (map : OrderedMap β) : map.keys.Pairwise (· < ·) :=
  List.pairwise_map.mpr map.ascending

theorem nodup_of_ascending {texts : List String} (ascending : texts.Pairwise (· < ·)) :
    texts.Nodup := by
  apply ascending.imp
  intro first second less same
  exact String.lt_irrefl _ (same ▸ less)

theorem keys_nodup (map : OrderedMap β) : map.keys.Nodup := nodup_of_ascending map.keys_ascending

theorem mem_entries_iff (map : OrderedMap β) (key : String) (value : β) :
    (key,value) ∈ map.entries ↔ map.get? key = some value :=
  (lookup_eq_some_iff_mem map.keys_nodup).symm

theorem mem_keys_iff (map : OrderedMap β) (key : String) :
    key ∈ map.keys ↔ (map.get? key).isSome := by
  constructor
  · intro member
    obtain ⟨⟨_,value⟩,inside,rfl⟩ := List.mem_map.mp member
    rw [(map.mem_entries_iff _ value).mp inside]
    rfl
  · intro known
    obtain ⟨value,found⟩ := Option.isSome_iff_exists.mp known
    exact List.mem_map.mpr ⟨_,(map.mem_entries_iff key value).mpr found,rfl⟩

theorem ext_entries {first second : OrderedMap β} (same : first.entries = second.entries) :
    first = second := by
  cases first
  cases second
  congr

theorem ext_get? {first second : OrderedMap β}
    (same : ∀ key, first.get? key = second.get? key) : first = second := by
  have members : ∀ entry, entry ∈ first.entries ↔ entry ∈ second.entries := by
    rintro ⟨key,value⟩
    rw [mem_entries_iff,mem_entries_iff,same key]
  have permuted : first.entries.Perm second.entries :=
    (List.perm_ext_iff_of_nodup first.keys_nodup.of_map second.keys_nodup.of_map).mpr members
  apply ext_entries
  refine permuted.eq_of_pairwise ?_ first.ascending second.ascending
  intro a b _ _ before after
  exact absurd (String.lt_trans before after) (String.lt_irrefl _)

theorem mem_values_iff (map : OrderedMap β) (value : β) :
    value ∈ map.values ↔ ∃ key, map.get? key = some value := by
  rw [values,List.mem_map]
  constructor
  · rintro ⟨⟨key,_⟩,member,rfl⟩
    exact ⟨key,(map.mem_entries_iff key _).mp member⟩
  · rintro ⟨key,found⟩
    exact ⟨_,(map.mem_entries_iff key value).mpr found,rfl⟩

theorem exchange_snd (map : OrderedMap β) (key : String) (value : β) :
    (map.exchange key value).2 = map.insert key value :=
  ext_entries (exchangeEntry_snd key value map.entries)

theorem exchangeEntry_fst {key : String} {value : β} {entries : List (String × β)}
    (ascending : entries.Pairwise fun a b => a.1 < b.1) :
    (exchangeEntry key value entries).1 = entries.lookup key := by
  induction entries with
  | nil => rfl
  | cons entry rest ih =>
    obtain ⟨below,tail⟩ := List.pairwise_cons.mp ascending
    rw [exchangeEntry]
    split
    next less =>
      -- the search ends here, since all that follows has greater keys
      have apart : ∀ other ∈ entry::rest, key ≠ other.1 := by
        rw [List.forall_mem_cons]
        refine ⟨String.ne_of_lt less,fun other member => ?_⟩
        exact String.ne_of_lt (String.lt_trans less (below other member))
      exact (List.lookup_eq_none_iff.mpr fun other member =>
        bne_iff_ne.mpr (apart other member)).symm
    next =>
      split
      next same =>
        subst same
        exact List.lookup_cons_self.symm
      next different =>
        rw [List.lookup_cons,beq_eq_false_iff_ne.mpr different]
        exact ih tail

theorem exchange_fst (map : OrderedMap β) (key : String) (value : β) :
    (map.exchange key value).1 = map.get? key :=
  exchangeEntry_fst map.ascending

theorem get?_foldl_insert (entries : List (String × β)) (initial : OrderedMap β) (key : String) :
    (entries.foldl (fun map entry => map.insert entry.1 entry.2) initial).get? key =
      (entries.reverse.lookup key).or (initial.get? key) := by
  induction entries generalizing initial with
  | nil => simp
  | cons entry rest ih =>
    obtain ⟨first,value⟩ := entry
    rw [List.foldl_cons,ih,get?_insert,List.reverse_cons,List.lookup_append,Option.or_assoc]
    congr 1
    by_cases same : key = first
    · simp [same]
    · simp [same,List.lookup_cons,beq_eq_false_iff_ne.mpr same]

/-- The last entry of a key is the one that counts. -/
theorem get?_ofList (entries : List (String × β)) (key : String) :
    (ofList entries).get? key = entries.reverse.lookup key := by
  rw [ofList,get?_foldl_insert,get?_empty,Option.or_none]

theorem mem_of_get?_ofList {entries : List (String × β)} {key : String} {value : β}
    (found : (ofList entries).get? key = some value) : (key,value) ∈ entries := by
  rw [get?_ofList] at found
  exact List.mem_reverse.mp (mem_of_lookup found)

theorem isSome_get?_ofList (entries : List (String × β)) (key : String) :
    ((ofList entries).get? key).isSome ↔ key ∈ entries.map (·.1) := by
  rw [get?_ofList,List.lookup_isSome_iff]
  simp only [List.mem_reverse,beq_iff_eq,List.mem_map,eq_comm (a := key)]

theorem get?_ofList_eq_some_iff {entries : List (String × β)}
    (distinct : (entries.map (·.1)).Nodup) (key : String) (value : β) :
    (ofList entries).get? key = some value ↔ (key,value) ∈ entries := by
  have reversed : (entries.reverse.map (·.1)).Nodup := by
    rw [List.map_reverse]
    exact List.nodup_reverse.mpr distinct
  rw [get?_ofList,lookup_eq_some_iff_mem reversed,List.mem_reverse]

theorem entries_ofList_perm {entries : List (String × β)} (distinct : (entries.map (·.1)).Nodup) :
    (ofList entries).entries.Perm entries := by
  apply (List.perm_ext_iff_of_nodup (keys_nodup _).of_map distinct.of_map).mpr
  rintro ⟨key,value⟩
  rw [mem_entries_iff,get?_ofList_eq_some_iff distinct]

theorem ofList_perm {first second : List (String × β)} (permuted : first.Perm second)
    (distinct : (first.map (·.1)).Nodup) : ofList first = ofList second := by
  have alsoDistinct : (second.map (·.1)).Nodup := (permuted.map _).nodup distinct
  apply ext_get?
  intro key
  apply Option.ext
  intro value
  rw [get?_ofList_eq_some_iff distinct,get?_ofList_eq_some_iff alsoDistinct,permuted.mem_iff]

end OrderedMap

namespace OrderedSet

theorem mem_keys_ofTexts (texts : List String) (text : String) :
    text ∈ (ofTexts texts).keys ↔ text ∈ texts := by
  rw [OrderedMap.mem_keys_iff,ofTexts,OrderedMap.isSome_get?_ofList,List.map_map]
  simp

theorem ofTexts_congr {first second : List String} (same : ∀ text, text ∈ first ↔ text ∈ second) :
    ofTexts first = ofTexts second := by
  apply OrderedMap.ext_get?
  intro text
  have known : ((ofTexts first).get? text).isSome ↔ ((ofTexts second).get? text).isSome := by
    rw [← OrderedMap.mem_keys_iff,← OrderedMap.mem_keys_iff,mem_keys_ofTexts,mem_keys_ofTexts,same]
  cases left : (ofTexts first).get? text <;> cases right : (ofTexts second).get? text <;>
    simp_all

end OrderedSet

end InformerGen
