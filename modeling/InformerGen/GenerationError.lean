import InformerGen.Directive.TagSet
import InformerGen.Imports
import InformerGen.Naming.Systems
import InformerGen.Symbol

/-! The ways in which generating a file can fail, and how they are told. -/
namespace InformerGen

inductive TemplateFault where
  | unterminated
  | noDot (inner : String)
  | badName (name : String)
  | emptySystem (name : String)
deriving DecidableEq, Repr

namespace TemplateFault

def message : TemplateFault → String
  | unterminated => "unterminated placeholder"
  | noDot inner => "placeholder '" ++ inner ++ "' must start with '.'"
  | badName name => "invalid placeholder name '" ++ name ++ "'"
  | emptySystem name => "placeholder '" ++ name ++ "' has an empty name system"

end TemplateFault

inductive SystemFault where
  | onLiteral (system : String)
  | onBoolean (system : String)
  | onSymbol (system : String)
deriving DecidableEq, Repr

namespace SystemFault

def message : SystemFault → String
  | onLiteral system => "a literal value cannot use name system '" ++ system ++ "'"
  | onBoolean system => "a boolean value cannot use name system '" ++ system ++ "'"
  | onSymbol system =>
    "symbols render with '" ++ NameSystems.rawId ++ "' only, not '" ++ system ++ "'"

end SystemFault

inductive GenerationError where
  | malformedTag (error : TagError)
  | unknownSymbol (symbol : SymbolRef)
  | unknownPackage (path : String)
  | missingPlaceholder (name : String)
  | unknownNameSystem (placeholder system : String)
  | invalidPlaceholder (placeholder : String) (fault : SystemFault)
  /-- The offset counts bytes. -/
  | template (offset : Nat) (fault : TemplateFault)
  | imports (error : ImportError)
  | unwritten
deriving DecidableEq, Repr

namespace GenerationError

def message : GenerationError → String
  | malformedTag error => "malformed tag '" ++ error.line ++ "': " ++ error.fault.message
  | unknownSymbol symbol =>
    "unknown " ++ symbol.kind.text ++ " '" ++ symbol.name.text ++ "'"
  | unknownPackage path => "package '" ++ path ++ "' has no import alias"
  | missingPlaceholder name => "template placeholder '" ++ name ++ "' is not bound"
  | unknownNameSystem placeholder system =>
    "unknown name system '" ++ system ++ "' in placeholder '" ++ placeholder ++ "'"
  | invalidPlaceholder placeholder fault =>
    "placeholder '" ++ placeholder ++ "': " ++ fault.message
  | template offset fault =>
    "invalid template at byte " ++ toString offset ++ ": " ++ fault.message
  | imports (.packageTaken path existing requested) =>
    "package '" ++ path ++ "' is imported as '" ++ existing ++ "', cannot import it as '" ++
      requested ++ "'"
  | imports (.qualifierTaken qualifier existing requested) =>
    "alias '" ++ qualifier ++ "' already names package '" ++ existing ++
      "', cannot reuse it for '" ++ requested ++ "'"
  | unwritten => "failed to write generated output"

def code : GenerationError → String
  | malformedTag _ => "injgen::malformed_tag"
  | unknownSymbol _ => "injgen::unknown_symbol"
  | unknownPackage _ => "injgen::unknown_package"
  | missingPlaceholder _ => "injgen::missing_placeholder"
  | unknownNameSystem _ _ => "injgen::unknown_name_system"
  | invalidPlaceholder _ _ => "injgen::invalid_placeholder"
  | template _ _ => "injgen::template"
  | imports (.packageTaken ..) => "injgen::import_conflict"
  | imports (.qualifierTaken ..) => "injgen::alias_conflict"
  | unwritten => "injgen::io"

def help : GenerationError → Option String
  | unknownSymbol _ =>
    some "declare it in the type universe or check the configured package paths"
  | unknownPackage _ =>
    some "packages must be part of the universe the generator was created with"
  | unknownNameSystem _ _ =>
    some <| "available name systems: " ++ ", ".intercalate [NameSystems.rawId,
      NameSystems.capitalizedId,NameSystems.uncapitalizedId,NameSystems.capitalizedPluralId,
      NameSystems.lowercasePluralId,NameSystems.resourceId]
  | _ => none

end GenerationError

end InformerGen
