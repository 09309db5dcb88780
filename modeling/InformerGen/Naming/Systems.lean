import InformerGen.Bindings
import InformerGen.Directive.TagSet
import InformerGen.Naming.Namer
import InformerGen.Text.Quoted

/-! Naming systems: namers that templates choose by a name. -/
namespace InformerGen

structure NamingTables where
  irregular : PluralTable
  /-- Public plurals, by the doubled naming key. -/
  exceptions : OrderedMap String
deriving DecidableEq

namespace NamingTables

def standardPlurals : PluralTable := OrderedMap.ofList [("Endpoints","Endpoints")]

def standard : NamingTables := ⟨standardPlurals,.empty⟩

def withPlural (tables : NamingTables) (singular plural : String) : NamingTables :=
  { tables with irregular := tables.irregular.insert singular plural }

def withException (tables : NamingTables) (key name : String) : NamingTables :=
  { tables with exceptions := tables.exceptions.insert key name }

end NamingTables

abbrev NameSystems := Bindings Namer

namespace NameSystems

/-- The system of qualified references, which the resolver provides. -/
def rawId : String := "raw"
def capitalizedId : String := "public"
def uncapitalizedId : String := "private"
def capitalizedPluralId : String := "publicPlural"
def lowercasePluralId : String := "lowercasePlural"
def resourceId : String := "resource"

def ofTables (tables : NamingTables) : NameSystems :=
  Bindings.ofList [
    (capitalizedId,.capitalized),
    (uncapitalizedId,.uncapitalized),
    (capitalizedPluralId,
      .excepting .doubled tables.exceptions (.capitalizedPlural tables.irregular)),
    (lowercasePluralId,.lowercasePlural tables.irregular),
    (resourceId,.directed TagSet.resourceNameKey (.lowercasePlural tables.irregular))]

def name? (systems : NameSystems) (system : String) (type : TypeDescriptor) : Option String :=
  (systems.get? system).map fun namer => namer.nameOf type

def listing (systems : NameSystems) : String := Text.quotedList systems.names

end NameSystems

end InformerGen
