import InformerGen.Json.Universe
import InformerGen.Proofs.Json.Reader
import InformerGen.Proofs.OrderedMap

/-! Types, packages and universes come back from their JSON forms. A record has its fields by their names,
each once, and a map or a set is told its own entries again. None of the forms has a number, so they also
come back from their texts. -/
namespace InformerGen

namespace OrderedMap

universe u

variable {β : Type u}

theorem ofList_entries (map : OrderedMap β) : ofList map.entries = map := by
  apply ext_get?
  intro key
  apply Option.ext
  intro value
  rw [get?_ofList_eq_some_iff map.keys_nodup,mem_entries_iff]

end OrderedMap

theorem OrderedSet.ofTexts_keys (set : OrderedSet) : ofTexts set.keys = set := by
  have entries : set.keys.map (·,()) = set.entries := by
    rw [OrderedMap.keys,List.map_map]
    exact List.map_id _
  rw [ofTexts,entries,OrderedMap.ofList_entries]

namespace Json

variable {α : Type}

theorem mapM_map {β : Type} {encode : α → β} {read : β → Option α} {items : List α}
    (back : ∀ item ∈ items, read (encode item) = some item) :
    (items.map encode).mapM read = some items := by
  induction items with
  | nil => rfl
  | cons item rest ih =>
    obtain ⟨first,others⟩ := List.forall_mem_cons.mp back
    simp [first,ih others]

theorem fields?_object {names : List String} {members : List (String × Json)}
    (named : members.map (·.1) = names) (distinct : names.Nodup) :
    (object members).fields? names = some (members.map fun member => some member.2) := by
  subst named
  have once : ((members.map (·.1)).any fun name => decide (1 < members.countP (·.1 == name))) =
      false := by
    rw [List.any_eq_false]
    intro name _
    have count : members.countP (·.1 == name) = (members.map (·.1)).count name := by
      rw [List.count,List.countP_map]
      rfl
    rw [count,decide_eq_true_eq]
    exact Nat.not_lt.mpr (List.nodup_iff_count_le_one.mp distinct name)
  have found : (members.map (·.1)).map (fun name => members.lookup name) =
      members.map fun member => some member.2 := by
    rw [List.map_map]
    refine List.map_congr_left fun member listed => ?_
    exact (OrderedMap.lookup_eq_some_iff_mem distinct).mpr listed
  rw [fields?,once,found,if_neg Bool.false_ne_true]

theorem texts?_ofTexts (texts : List String) : (ofTexts texts).texts? = some texts :=
  mapM_map fun _ _ => rfl

theorem set?_ofSet (set : OrderedSet) : set? (ofSet set) = some set := by
  rw [set?,ofSet,texts?_ofTexts,Option.map_some,OrderedSet.ofTexts_keys]

theorem map?_ofMap {encode : α → Json} {read : Json → Option α}
    (back : ∀ value, read (encode value) = some value) (map : OrderedMap α) :
    map? read (ofMap encode map) = some map := by
  have entries : (map.entries.map fun entry => (entry.1,encode entry.2)).mapM
      (fun member => (read member.2).map (member.1,·)) = some map.entries :=
    mapM_map fun entry _ => by rw [back,Option.map_some]
  simp only [map?,ofMap,members?,entries,Option.bind_eq_bind,Option.bind_some,
    OrderedMap.ofList_entries,Option.pure_def]

theorem textual_ofTexts (texts : List String) : Textual (ofTexts texts) := by
  refine .array fun item listed => ?_
  obtain ⟨text,_,rfl⟩ := List.mem_map.mp listed
  exact .string text

theorem textual_ofMap {encode : α → Json} (each : ∀ value, Textual (encode value))
    (map : OrderedMap α) : Textual (ofMap encode map) := by
  refine .object fun member listed => ?_
  obtain ⟨entry,_,rfl⟩ := List.mem_map.mp listed
  exact each entry.2

end Json

open Json

theorem Name.ofJson?_toJson (name : Name) : ofJson? name.toJson = some name := by
  have fields : name.toJson.fields? ["package","name"] =
      some [some (.string name.package),some (.string name.name)] :=
    fields?_object rfl (by decide)
  rw [ofJson?,fields]
  rfl

theorem Name.textual_toJson (name : Name) : Textual name.toJson :=
  .object (by simp [Textual.string])

theorem TypeDescriptor.ofJson?_toJson (type : TypeDescriptor) : ofJson? type.toJson = some type := by
  have fields : type.toJson.fields?
      ["name","comment_lines","second_closest_comment_lines","members"] =
        some [some type.name.toJson,some (.ofTexts type.comments),some (.ofTexts type.inherited),
          some (.ofTexts type.members)] :=
    fields?_object rfl (by decide)
  rw [ofJson?,fields]
  simp [required,Json.optional,Name.ofJson?_toJson,texts?_ofTexts]

theorem TypeDescriptor.textual_toJson (type : TypeDescriptor) : Textual type.toJson :=
  .object (by simp [Name.textual_toJson,textual_ofTexts])

theorem Package.ofJson?_toJson (package : Package) : ofJson? package.toJson = some package := by
  have fields : package.toJson.fields? ["path","types","functions","variables"] =
      some [some (.string package.path),some (.ofMap TypeDescriptor.toJson package.types),
        some (.ofSet package.functions),some (.ofSet package.vars)] :=
    fields?_object rfl (by decide)
  rw [ofJson?,fields]
  simp [required,text?,map?_ofMap TypeDescriptor.ofJson?_toJson,set?_ofSet]

theorem Package.textual_toJson (package : Package) : Textual package.toJson :=
  .object (by
    simp [Textual.string,textual_ofMap TypeDescriptor.textual_toJson,ofSet,textual_ofTexts])

theorem Universe.ofJson?_toJson (known : Universe) : ofJson? known.toJson = some known := by
  have fields : known.toJson.fields? ["packages"] =
      some [some (.ofMap Package.toJson known.packages)] :=
    fields?_object rfl (by decide)
  rw [ofJson?,fields]
  simp [required,map?_ofMap Package.ofJson?_toJson]

theorem Universe.textual_toJson (known : Universe) : Textual known.toJson :=
  .object (by simp [textual_ofMap Package.textual_toJson])

/-- Whatever a universe and its types hold, they are read back equal, from their JSON forms and from the
texts of these. Nothing relates the path or the name that an entry stores to its key. -/
theorem Universe.forms_read_back :
    (∀ known : Universe, ofJson? known.toJson = some known ∧
      (Json.parse? known.toJson.render).bind ofJson? = some known) ∧
    ∀ type : TypeDescriptor, TypeDescriptor.ofJson? type.toJson = some type ∧
      (Json.parse? type.toJson.render).bind TypeDescriptor.ofJson? = some type := by
  refine ⟨fun known => ?_,fun type => ?_⟩
  · have back := Universe.ofJson?_toJson known
    refine ⟨back,?_⟩
    rw [parse?_render known.textual_toJson]
    exact back
  · have back := TypeDescriptor.ofJson?_toJson type
    refine ⟨back,?_⟩
    rw [parse?_render type.textual_toJson]
    exact back

end InformerGen
