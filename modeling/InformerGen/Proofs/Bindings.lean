import InformerGen.Bindings
import Mathlib.Data.List.Nodup

/-! Bindings of different names are kept as they were given. -/
namespace InformerGen.Bindings

universe u

variable {β : Type u}

theorem bindEntry_of_notMem {name : String} (value : β) {entries : List (String × β)}
    (fresh : name ∉ entries.map (·.1)) :
    bindEntry name value entries = entries ++ [(name,value)] := by
  induction entries with
  | nil => rfl
  | cons entry rest ih =>
    rw [List.map_cons,List.mem_cons,not_or] at fresh
    rw [bindEntry,if_neg fresh.1,ih fresh.2,List.cons_append]

theorem entries_foldl_bind {entries : List (String × β)} {initial : Bindings β}
    (distinct : ((initial.entries ++ entries).map (·.1)).Nodup) :
    (entries.foldl (fun bindings entry => bindings.bind entry.1 entry.2) initial).entries =
      initial.entries ++ entries := by
  induction entries generalizing initial with
  | nil => simp
  | cons entry rest ih =>
    have fresh : entry.1 ∉ initial.entries.map (·.1) := by
      rw [List.map_append,List.nodup_append] at distinct
      intro member
      exact distinct.2.2 _ member _ (by simp) rfl
    have next : (initial.bind entry.1 entry.2).entries = initial.entries ++ [entry] :=
      bindEntry_of_notMem entry.2 fresh
    rw [List.foldl_cons,ih]
    · rw [next,List.append_assoc,List.singleton_append]
    · rwa [next,List.append_assoc,List.singleton_append]

theorem entries_ofList {entries : List (String × β)} (distinct : (entries.map (·.1)).Nodup) :
    (ofList entries).entries = entries := by
  have nothing : (empty : Bindings β).entries = [] := rfl
  rw [ofList,entries_foldl_bind,nothing,List.nil_append]
  exact distinct

theorem get?_ofList {entries : List (String × β)} (distinct : (entries.map (·.1)).Nodup)
    (name : String) : (ofList entries).get? name = entries.lookup name := by
  rw [get?,entries_ofList distinct]

end InformerGen.Bindings
