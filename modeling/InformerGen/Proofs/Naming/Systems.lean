import InformerGen.Naming.Systems
import InformerGen.Proofs.Bindings

/-! The naming systems of a pair of tables. Only the public plurals depend on the exceptions. -/
namespace InformerGen

theorem Namer.nameOf_excepting (key : NamingKey) (table : OrderedMap String) (otherwise : Namer)
    (type : TypeDescriptor) : (excepting key table otherwise).nameOf type =
      (table.get? (key.ofType type)).getD (otherwise.nameOf type) := by
  rw [nameOf]
  cases table.get? (key.ofType type) <;> rfl

namespace NameSystems

theorem get?_ofTables (tables : NamingTables) (system : String) :
    (ofTables tables).get? system = [(capitalizedId,.capitalized),(uncapitalizedId,.uncapitalized),
      (capitalizedPluralId,
        .excepting .doubled tables.exceptions (.capitalizedPlural tables.irregular)),
      (lowercasePluralId,.lowercasePlural tables.irregular),
      (resourceId,.directed TagSet.resourceNameKey
        (.lowercasePlural tables.irregular))].lookup system := by
  apply Bindings.get?_ofList
  show [capitalizedId,uncapitalizedId,capitalizedPluralId,lowercasePluralId,resourceId].Nodup
  decide

theorem name?_capitalizedPlural (tables : NamingTables) (type : TypeDescriptor) :
    (ofTables tables).name? capitalizedPluralId type =
      some ((tables.exceptions.get? (NamingKey.doubled.ofType type)).getD
        ((Namer.capitalizedPlural tables.irregular).nameOf type)) := by
  rw [← Namer.nameOf_excepting]
  rfl

theorem name?_lowercasePlural (tables : NamingTables) (type : TypeDescriptor) :
    (ofTables tables).name? lowercasePluralId type =
      some ((Namer.lowercasePlural tables.irregular).nameOf type) := rfl

theorem name?_resource (tables : NamingTables) (type : TypeDescriptor) :
    (ofTables tables).name? resourceId type = some
      ((Namer.directed TagSet.resourceNameKey (.lowercasePlural tables.irregular)).nameOf type) := rfl

theorem name?_congr {tables other : NamingTables} (plurals : tables.irregular = other.irregular)
    {system : String} (apart : system ≠ capitalizedPluralId) (type : TypeDescriptor) :
    (ofTables tables).name? system type = (ofTables other).name? system type := by
  rw [name?,name?,get?_ofTables,get?_ofTables,plurals]
  simp only [List.lookup_cons,beq_eq_false_iff_ne.mpr apart]

end NameSystems

end InformerGen
