import InformerGen.Text.Cut

/-! What is told about a manifest that cannot be used, and the place in its text that is meant. -/
namespace InformerGen

structure Span where
  offset : Nat
  length : Nat
deriving DecidableEq, Repr

structure ManifestSource where
  file : String
  text : String
deriving DecidableEq, Repr

def offsetOf? (needle text : List Char) : Option Nat :=
  (Text.cut needle text).map fun (before,_) => Text.byteLength before

/-- The place of a text: the first one in quotes, or else the first one at all. -/
def ManifestSource.find? (source : ManifestSource) (needle : String) : Option Span :=
  let sought := needle.toList
  if sought.isEmpty then none
  else
    let length := Text.byteLength sought
    match offsetOf? ('"'::sought ++ ['"']) source.text.toList with
    | some offset => some ⟨offset + 1,length⟩
    | none => (offsetOf? sought source.text.toList).map fun offset => ⟨offset,length⟩

inductive Problem where
  | validation (message : String)
  | invalidIdentifier (name context : String)
  | duplicate (what name : String)
deriving DecidableEq, Repr

namespace Problem

def message : Problem → String
  | validation message => message
  | invalidIdentifier name context => "invalid " ++ context ++ " '" ++ name ++ "'"
  | duplicate what name => "duplicate " ++ what ++ " '" ++ name ++ "'"

def code : Problem → String
  | validation _ => "injgen::validation_error"
  | invalidIdentifier _ _ => "injgen::invalid_identifier"
  | duplicate _ _ => "injgen::duplicate"

def help : Problem → Option String
  | invalidIdentifier _ _ =>
    some <| "use only letters, numbers, and underscores, starting with a letter, and avoid Go " ++
      "keywords"
  | _ => none

def label : Problem → String
  | validation message => message
  | invalidIdentifier _ _ => "not a Go identifier"
  | duplicate _ _ => "declared more than once"

end Problem

inductive ReadFailure where
  | notFound
  | notADirectory
  | isADirectory
  | notUtf8
deriving DecidableEq, Repr

namespace ReadFailure

def message : ReadFailure → String
  | notFound => "No such file or directory (os error 2)"
  | notADirectory => "Not a directory (os error 20)"
  | isADirectory => "Is a directory (os error 21)"
  | notUtf8 => "stream did not contain valid UTF-8"

end ReadFailure

inductive ManifestError where
  | unreadable (path : String) (failure : ReadFailure)
  /-- The file holds no TOML, or not that of a manifest. -/
  | malformed (file : String)
  | invalid (file : String) (span : Option Span) (problem : Problem)
deriving DecidableEq, Repr

namespace ManifestError

def message : ManifestError → String
  | unreadable path _ => "failed to read '" ++ path ++ "'"
  | malformed _ => "failed to parse injgen.toml"
  | invalid _ _ problem => problem.message

def code : ManifestError → String
  | unreadable _ _ => "injgen::io"
  | malformed _ => "injgen::parse_error"
  | invalid _ _ problem => problem.code

def help : ManifestError → Option String
  | invalid _ _ problem => problem.help
  | _ => none

def chain : ManifestError → List String
  | unreadable path failure => [(unreadable path failure).message,failure.message]
  | error => [error.message]

end ManifestError

def ManifestSource.tell (source : ManifestSource) (needle : String) (problem : Problem) :
    ManifestError :=
  .invalid source.file (source.find? needle) problem

end InformerGen
