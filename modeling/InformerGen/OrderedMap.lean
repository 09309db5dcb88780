/-!
Maps from texts, kept in ascending order of their keys. Texts are ordered by code point, so a map is
determined by what its keys stand for and lists its entries in one order only.
-/
namespace InformerGen

universe u

structure OrderedMap (β : Type u) where
  entries : List (String × β)
  ascending : entries.Pairwise fun a b => a.1 < b.1
deriving DecidableEq

namespace OrderedMap

variable {β : Type u}

def insertEntry (key : String) (value : β) : List (String × β) → List (String × β)
  | [] => [(key,value)]
  | entry::rest =>
    if key < entry.1 then (key,value)::entry::rest
    else if key = entry.1 then (key,value)::rest
    else entry::insertEntry key value rest

theorem mem_insertEntry {key : String} {value : β} {entry : String × β}
    {entries : List (String × β)} (h : entry ∈ insertEntry key value entries) :
    entry = (key,value) ∨ entry ∈ entries := by
  induction entries with
  | nil => simpa [insertEntry] using h
  | cons first rest ih =>
    simp only [insertEntry] at h
    split at h
    · simpa using h
    · split at h
      · exact (List.mem_cons.1 h).imp_right (List.mem_cons_of_mem _)
      · rcases List.mem_cons.1 h with rfl | later
        · exact .inr List.mem_cons_self
        · exact (ih later).imp_right (List.mem_cons_of_mem _)

theorem insertEntry_ascending {key : String} {value : β} {entries : List (String × β)}
    (ascending : entries.Pairwise fun a b => a.1 < b.1) :
    (insertEntry key value entries).Pairwise fun a b => a.1 < b.1 := by
  induction entries with
  | nil => simp [insertEntry]
  | cons first rest ih =>
    obtain ⟨below,tail⟩ := List.pairwise_cons.1 ascending
    simp only [insertEntry]
    split
    · next less =>
      refine List.pairwise_cons.2 ⟨fun other member => ?_,ascending⟩
      rcases List.mem_cons.1 member with rfl | later
      · exact less
      · exact String.lt_trans less (below other later)
    · next notLess =>
      split
      · next same =>
        refine List.pairwise_cons.2 ⟨fun other member => ?_,tail⟩
        rw [show (key,value).1 = first.1 from same]
        exact below other member
      · next different =>
        refine List.pairwise_cons.2 ⟨fun other member => ?_,ih tail⟩
        rcases mem_insertEntry member with rfl | later
        · have atMost := String.not_lt.1 notLess
          exact String.not_le.1 fun atLeast => different (String.le_antisymm atLeast atMost)
        · exact below other later

def empty : OrderedMap β := ⟨[],.nil⟩

instance : EmptyCollection (OrderedMap β) := ⟨empty⟩

instance : Inhabited (OrderedMap β) := ⟨empty⟩

def insert (map : OrderedMap β) (key : String) (value : β) : OrderedMap β :=
  ⟨insertEntry key value map.entries,insertEntry_ascending map.ascending⟩

def exchangeEntry (key : String) (value : β) :
    List (String × β) → Option β × List (String × β)
  | [] => (none,[(key,value)])
  | entry::rest =>
    if key < entry.1 then (none,(key,value)::entry::rest)
    else if key = entry.1 then (some entry.2,(key,value)::rest)
    else
      let exchanged := exchangeEntry key value rest
      (exchanged.1,entry::exchanged.2)

theorem exchangeEntry_snd (key : String) (value : β) (entries : List (String × β)) :
    (exchangeEntry key value entries).2 = insertEntry key value entries := by
  induction entries with
  | nil => rfl
  | cons entry rest ih =>
    simp only [exchangeEntry,insertEntry,← ih]
    split
    · rfl
    · split <;> rfl

def exchange (map : OrderedMap β) (key : String) (value : β) : Option β × OrderedMap β :=
  let exchanged := exchangeEntry key value map.entries
  (exchanged.1,⟨exchanged.2,exchangeEntry_snd key value _ ▸ insertEntry_ascending map.ascending⟩)

/-- Of entries with one key the last counts. -/
def ofList (entries : List (String × β)) : OrderedMap β :=
  entries.foldl (fun map entry => map.insert entry.1 entry.2) empty

def get? (map : OrderedMap β) (key : String) : Option β := map.entries.lookup key

def contains (map : OrderedMap β) (key : String) : Bool := (map.get? key).isSome

def keys (map : OrderedMap β) : List String := map.entries.map (·.1)

def values (map : OrderedMap β) : List β := map.entries.map (·.2)

def size (map : OrderedMap β) : Nat := map.entries.length

def isEmpty (map : OrderedMap β) : Bool := map.entries.isEmpty

private theorem lookup_cons_of_ne {key other : String} (apart : other ≠ key) (value : β)
    (rest : List (String × β)) : ((key,value)::rest).lookup other = rest.lookup other := by
  rw [List.lookup_cons,beq_eq_false_iff_ne.2 apart]

theorem lookup_insertEntry (key other : String) (value : β) (entries : List (String × β)) :
    (insertEntry key value entries).lookup other =
      if other = key then some value else entries.lookup other := by
  induction entries with
  | nil =>
    by_cases h : other = key
    · simp [insertEntry,h]
    · rw [if_neg h,insertEntry,lookup_cons_of_ne h]
  | cons first rest ih =>
    obtain ⟨k,v⟩ := first
    simp only [insertEntry]
    split
    · by_cases h : other = key
      · simp [h]
      · rw [if_neg h,lookup_cons_of_ne h]
    · split
      · next same =>
        cases same
        by_cases h : other = key
        · simp [h]
        · rw [if_neg h,lookup_cons_of_ne h,lookup_cons_of_ne h]
      · next different =>
        by_cases h : other = k
        · cases h
          rw [if_neg (Ne.symm different)]
          simp
        · rw [lookup_cons_of_ne h,lookup_cons_of_ne h,ih]

theorem get?_insert (map : OrderedMap β) (key other : String) (value : β) :
    (map.insert key value).get? other = if other = key then some value else map.get? other :=
  lookup_insertEntry key other value map.entries

@[simp] theorem get?_empty (key : String) : (empty : OrderedMap β).get? key = none := rfl

end OrderedMap

abbrev OrderedSet := OrderedMap Unit

namespace OrderedSet

def ofTexts (texts : List String) : OrderedSet := OrderedMap.ofList (texts.map (·,()))

end OrderedSet

end InformerGen
