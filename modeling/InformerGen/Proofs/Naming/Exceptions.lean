import InformerGen.Proofs.Naming.Keys
import InformerGen.Proofs.Naming.Systems

/-! An exception is for one type. The key is read backwards: behind its last dot stands the name of the
type, doubled, and before it the package, which may have dots of its own. And only one of the naming
systems looks at the exceptions. -/
namespace InformerGen

theorem Text.append_self_inj {text other : String} :
    text ++ text = other ++ other ↔ text = other := by
  refine ⟨fun same => ?_,fun same => same ▸ rfl⟩
  have chars := congrArg String.toList same
  rw [String.toList_append,String.toList_append] at chars
  have lengths := congrArg List.length chars
  rw [List.length_append,List.length_append] at lengths
  exact String.toList_inj.mp (List.append_inj chars (by omega)).1

def TypeDescriptor.Dotless (type : TypeDescriptor) : Prop := '.' ∉ type.name.name.toList

theorem TypeDescriptor.dotless_of_isIdentifier {type : TypeDescriptor}
    (named : Identifier.isIdentifier type.name.name = true) : type.Dotless :=
  Identifier.unmarked_of_isIdentifier (by decide) named

namespace NamingKey

theorem doubled_inj {first second : TypeDescriptor} (dotless : first.Dotless)
    (otherDotless : second.Dotless) :
    doubled.ofType first = doubled.ofType second ↔ first.name = second.name := by
  obtain ⟨⟨package,name⟩,_,_,_⟩ := first
  obtain ⟨⟨other,otherName⟩,_,_,_⟩ := second
  have twice : ∀ text : String, '.' ∉ text.toList → '.' ∉ (text ++ text).toList := by
    intro text unmarked
    simpa using unmarked
  rw [ofType,ofType,@String.append_assoc _ name name,@String.append_assoc _ otherName otherName]
  refine (Text.append_mark_inj (twice _ dotless) (twice _ otherDotless)).trans ?_
  rw [Text.append_self_inj,Name.mk.injEq]

end NamingKey

namespace NamingTables

open NameSystems

/-- The public plural of the type is not the same in the other tables. -/
def Renames (tables other : NamingTables) (type : TypeDescriptor) : Prop :=
  (ofTables other).name? capitalizedPluralId type ≠ (ofTables tables).name? capitalizedPluralId type

/-- What it comes to that the tables are given another exception. The type with its key is named as it
says, and is the only one with a new name, among the types without a dot in their names. -/
structure Excepted (tables : NamingTables) (key name : String) (other : NamingTables) : Prop where
  verbatim : ∀ type, NamingKey.doubled.ofType type = key →
    (ofTables other).name? capitalizedPluralId type = some name
  renames_iff : ∀ type, tables.Renames other type ↔ NamingKey.doubled.ofType type = key ∧
    (ofTables tables).name? capitalizedPluralId type ≠ some name
  one : ∀ first second : TypeDescriptor, first.Dotless → second.Dotless →
    tables.Renames other first → tables.Renames other second → first.name = second.name
  elsewhere : ∀ system, system ≠ capitalizedPluralId → ∀ type,
    (ofTables other).name? system type = (ofTables tables).name? system type

theorem name?_withException (tables : NamingTables) (key name : String) (type : TypeDescriptor) :
    (ofTables (tables.withException key name)).name? capitalizedPluralId type =
      if NamingKey.doubled.ofType type = key then some name
      else (ofTables tables).name? capitalizedPluralId type := by
  rw [name?_capitalizedPlural,name?_capitalizedPlural,withException,OrderedMap.get?_insert]
  split <;> rfl

theorem renames_withException_iff {tables : NamingTables} {key name : String}
    {type : TypeDescriptor} : tables.Renames (tables.withException key name) type ↔
      NamingKey.doubled.ofType type = key ∧
        (ofTables tables).name? capitalizedPluralId type ≠ some name := by
  rw [Renames,name?_withException]
  split
  next same => exact ⟨fun renamed => ⟨same,renamed.symm⟩,fun renamed => renamed.2.symm⟩
  next other => exact ⟨fun renamed => absurd rfl renamed,fun renamed => absurd renamed.1 other⟩

/-- An exception that is added to any tables gives its name to the types with its key, of which one at
most has no dot in its name. No other type is renamed, and none in another naming system. -/
theorem excepted_withException (tables : NamingTables) (key name : String) :
    Excepted tables key name (tables.withException key name) where
  verbatim type same := by rw [name?_withException,if_pos same]
  renames_iff _ := renames_withException_iff
  one first second dotless otherDotless renamed otherRenamed := by
    have keyed := (renames_withException_iff.mp renamed).1
    have otherKeyed := (renames_withException_iff.mp otherRenamed).1
    exact (NamingKey.doubled_inj dotless otherDotless).mp (keyed.trans otherKeyed.symm)
  elsewhere _ apart type := by
    have plurals : (tables.withException key name).irregular = tables.irregular := rfl
    exact name?_congr plurals apart type

theorem event_excepted :
    let tables := NamingTables.standard.withException "k8s.io/api/core/v1.EventEvent" "CoreEvents"
    let other := tables.withException "k8s.io/api/events/v1.EventEvent" "EventResource"
    let event := TypeDescriptor.plain "k8s.io/api/events/v1" "Event"
    let coreEvent := TypeDescriptor.plain "k8s.io/api/core/v1" "Event"
    (event.Dotless ∧ coreEvent.Dotless ∧ tables.Renames other event ∧
      ¬ tables.Renames other coreEvent) ∧
    (ofTables other).name? capitalizedPluralId event = some "EventResource" ∧
    (ofTables other).name? capitalizedPluralId coreEvent = some "CoreEvents" ∧
    (ofTables other).name? resourceId event = some "events" := by
  intro tables other event coreEvent
  have excepted : Excepted tables _ _ other := excepted_withException tables _ _
  have named : Identifier.isIdentifier "Event" = true := by decide
  have dotless : event.Dotless := TypeDescriptor.dotless_of_isIdentifier named
  have coreDotless : coreEvent.Dotless := TypeDescriptor.dotless_of_isIdentifier named
  have plural : (ofTables tables).name? capitalizedPluralId event = some "Events" := by decide
  have renamed : tables.Renames other event :=
    (excepted.renames_iff event).mpr ⟨by decide,by rw [plural]; decide⟩
  have kept : ¬ tables.Renames other coreEvent := by
    intro again
    have same := excepted.one event coreEvent dotless coreDotless renamed again
    revert same
    decide
  refine ⟨⟨dotless,coreDotless,renamed,kept⟩,excepted.verbatim event (by decide),?_,?_⟩
  · exact (Classical.not_not.mp kept).trans (by decide)
  · exact (excepted.elsewhere resourceId (by decide) event).trans (by decide)

end NamingTables

end InformerGen
