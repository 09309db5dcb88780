/-! Values bound to names, in the order in which the names were first bound. -/
namespace InformerGen

universe u

structure Bindings (β : Type u) where
  entries : List (String × β)
  distinct : (entries.map (·.1)).Nodup
deriving DecidableEq

namespace Bindings

variable {β : Type u}

/-- Binds a name where it stands, or at the end. -/
def bindEntry (name : String) (value : β) : List (String × β) → List (String × β)
  | [] => [(name,value)]
  | entry::rest =>
    if name = entry.1 then (name,value)::rest else entry::bindEntry name value rest

theorem names_bindEntry (name : String) (value : β) (entries : List (String × β)) :
    (bindEntry name value entries).map (·.1) =
      if name ∈ entries.map (·.1) then entries.map (·.1) else entries.map (·.1) ++ [name] := by
  induction entries with
  | nil => rfl
  | cons entry rest ih =>
    simp only [bindEntry]
    split
    · next same => simp [same]
    · next different =>
      simp only [List.map_cons,ih,List.mem_cons,different,false_or]
      split <;> rfl

theorem bindEntry_distinct {name : String} {value : β} {entries : List (String × β)}
    (distinct : (entries.map (·.1)).Nodup) :
    ((bindEntry name value entries).map (·.1)).Nodup := by
  rw [names_bindEntry]
  split
  · exact distinct
  · next absent =>
    refine List.nodup_append.2 ⟨distinct,by simp,fun a member b single => ?_⟩
    rw [List.mem_singleton.1 single]
    exact fun same => absent (same ▸ member)

def empty : Bindings β := ⟨[],.nil⟩

def bind (bindings : Bindings β) (name : String) (value : β) : Bindings β :=
  ⟨bindEntry name value bindings.entries,bindEntry_distinct bindings.distinct⟩

def ofList (entries : List (String × β)) : Bindings β :=
  entries.foldl (fun bindings entry => bindings.bind entry.1 entry.2) empty

def get? (bindings : Bindings β) (name : String) : Option β := bindings.entries.lookup name

def contains (bindings : Bindings β) (name : String) : Bool := (bindings.get? name).isSome

def names (bindings : Bindings β) : List String := bindings.entries.map (·.1)

def size (bindings : Bindings β) : Nat := bindings.entries.length

def isEmpty (bindings : Bindings β) : Bool := bindings.entries.isEmpty

end Bindings

end InformerGen
