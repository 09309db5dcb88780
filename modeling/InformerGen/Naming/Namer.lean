import InformerGen.Directive
import InformerGen.Identifier
import InformerGen.Naming.Plural
import InformerGen.OrderedMap
import InformerGen.Universe

/-! Namers: the ways to make a name from a type. -/
namespace InformerGen

inductive NamingKey where
  /-- The package and the name doubled. -/
  | doubled
  | qualified
deriving DecidableEq, Repr

namespace NamingKey

def ofType : NamingKey → TypeDescriptor → String
  | doubled, type => type.name.package ++ "." ++ type.name.name ++ type.name.name
  | qualified, type => type.name.text

end NamingKey

abbrev PluralTable := OrderedMap String

inductive Namer where
  | capitalized
  | uncapitalized
  | capitalizedPlural (irregular : PluralTable)
  | lowercasePlural (irregular : PluralTable)
  /-- What the table gives for the type's key, or else what the other namer gives. -/
  | excepting (key : NamingKey) (table : OrderedMap String) (otherwise : Namer)
  | directed (key : String) (otherwise : Namer)
deriving DecidableEq

namespace Namer

def plural (irregular : PluralTable) (singular : String) : String :=
  (irregular.get? singular).getD (Naming.pluralize singular)

def nameOf : Namer → TypeDescriptor → String
  | capitalized, type => Text.capitalize type.name.name
  | uncapitalized, type => Text.uncapitalize type.name.name
  | capitalizedPlural irregular, type => Text.capitalize (plural irregular type.name.name)
  | lowercasePlural irregular, type => Text.lowercase (plural irregular type.name.name)
  | excepting key table otherwise, type =>
    match table.get? (key.ofType type) with
    | some name => name
    | none => otherwise.nameOf type
  | directed key otherwise, type =>
    match Directive.lastValue? key type.lines with
    | some name => if name = "" then otherwise.nameOf type else name
    | none => otherwise.nameOf type

end Namer

end InformerGen
