import InformerGen.GenerationError
import InformerGen.Text.Blank

/-!
Templates: text with placeholders. A placeholder stands between double braces and names a value
after a dot, as in `.group`, and a naming system for it after a bar, as in `.type|publicPlural`.
-/
namespace InformerGen

structure Placeholder where
  name : String
  system : Option String
  /-- Where the opening braces stand, in bytes from the start. -/
  offset : Nat
deriving DecidableEq, Repr

namespace Placeholder

def source (placeholder : Placeholder) : String :=
  let system := match placeholder.system with
    | some system => "|" ++ system
    | none => ""
  "\x7b\x7b." ++ placeholder.name ++ system ++ "\x7d\x7d"

end Placeholder

inductive Segment where
  | text (text : String)
  | placeholder (placeholder : Placeholder)
deriving DecidableEq, Repr

structure Template where
  segments : List Segment
deriving DecidableEq, Repr

namespace Template

def opening : List Char := ['{','{']

def closing : List Char := ['}','}']

def isNameChar (c : Char) : Bool := c.isAlphanum || c == '_'

def splitBody (body : List Char) : List Char × Option (List Char) :=
  match Text.splitAtFirst '|' body with
  | some (name,system) => (Text.trimChars name,some (Text.trimChars system))
  | none => (Text.trimChars body,none)

def readPlaceholder (inner : List Char) (offset : Nat) : Except TemplateFault Placeholder :=
  match Text.trimChars inner with
  | '.'::body =>
    let (name,system) := splitBody body
    if name.isEmpty || !name.all isNameChar then .error (.badName (String.ofList name))
    else if system = some [] then .error (.emptySystem (String.ofList name))
    else .ok ⟨String.ofList name,system.map String.ofList,offset⟩
  | trimmed => .error (.noDot (String.ofList trimmed))

def textSegment (text : List Char) : List Segment :=
  if text.isEmpty then [] else [.text (String.ofList text)]

/-- Reads the text that begins at an offset: up to the next opening braces, then to the closing
ones, then on from there. -/
def segmentsFrom (offset : Nat) (text : List Char) : Except GenerationError (List Segment) :=
  match _opened : Text.cut opening text with
  | none => .ok (textSegment text)
  | some (before,inside) =>
    let here := offset + Text.byteLength before
    match _closed : Text.cut closing inside with
    | none => .error (.template here .unterminated)
    | some (inner,after) =>
      match readPlaceholder inner here with
      | .error fault => .error (.template here fault)
      | .ok placeholder =>
        match segmentsFrom (here + 2 + Text.byteLength inner + 2) after with
        | .error error => .error error
        | .ok rest => .ok (textSegment before ++ .placeholder placeholder::rest)
termination_by text.length
decreasing_by
  rw [Text.cut_eq_some _opened,Text.cut_eq_some _closed]
  simp [opening]
  omega

def parse (source : String) : Except GenerationError Template :=
  (segmentsFrom 0 source.toList).map Template.mk

def placeholders (template : Template) : List Placeholder :=
  template.segments.filterMap fun
    | .placeholder placeholder => some placeholder
    | .text _ => none

end Template

end InformerGen
