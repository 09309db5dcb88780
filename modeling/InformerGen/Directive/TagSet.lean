import InformerGen.Directive
import InformerGen.Directive.Verb
import InformerGen.Event

/-!
What the directives on a type say about its client: whether one is generated, with which verbs, and
the name of the resource.
-/
namespace InformerGen

inductive TagFault where
  | valueOnClient
  | legacyForm (key : String)
  | noVerbs (key : String)
  | unknownVerb (word : String)
  | verbKeptAndSkipped (verb : Verb)
  | resourceNotOneWord
deriving DecidableEq, Repr

namespace TagFault

def message : TagFault → String
  | valueOnClient =>
    "+genclient takes no value; use '+genclient' to enable generation or omit it to disable"
  | legacyForm key => "use '+genclient:" ++ key ++ "' instead"
  | noVerbs key => "+" ++ key ++ " needs a comma separated list of verbs"
  | unknownVerb word => "unknown verb '" ++ word ++ "'"
  | verbKeptAndSkipped verb =>
    "verb '" ++ verb.text ++ "' is both skipped and kept by genclient:onlyVerbs or genclient:readonly"
  | resourceNotOneWord =>
    "+resourceName needs a single word value, e.g. '+resourceName=endpoints'"

end TagFault

structure TagError where
  line : String
  fault : TagFault
deriving DecidableEq, Repr

structure TagSet where
  generateClient : Bool
  nonNamespaced : Bool
  noStatus : Bool
  noVerbs : Bool
  skipVerbs : List Verb
  resourceName : Option String
deriving DecidableEq, Repr

namespace TagSet

def clientKey : String := "genclient"
def nonNamespacedKey : String := "genclient:nonNamespaced"
def noVerbsKey : String := "genclient:noVerbs"
def noStatusKey : String := "genclient:noStatus"
def readOnlyKey : String := "genclient:readonly"
def skipVerbsKey : String := "genclient:skipVerbs"
def onlyVerbsKey : String := "genclient:onlyVerbs"
def methodKey : String := "genclient:method"
def resourceNameKey : String := "resourceName"

def supportedKeys : List String :=
  [clientKey,nonNamespacedKey,noVerbsKey,noStatusKey,readOnlyKey,skipVerbsKey,onlyVerbsKey,
    methodKey]

/-- Keys that stand under the client's namespace by now. -/
def legacyKeys : List String := ["nonNamespaced","readonly"]

def rejectValue (directives : List Directive) (key : String) (fault : TagFault) :
    Except TagError Unit :=
  match (Directive.withKey key directives).find? (·.value != "") with
  | some directive => .error ⟨directive.line,fault⟩
  | none => .ok ()

def readVerb (directive : Directive) (word : String) : Except TagError Verb :=
  match Verb.ofText? (Text.trim word) with
  | some verb => .ok verb
  | none => .error ⟨directive.line,.unknownVerb (Text.trim word)⟩

def readVerbs (directive : Directive) : Except TagError (List Verb) :=
  if Text.allBlank directive.value then .error ⟨directive.line,.noVerbs directive.key⟩
  else (Text.pieces ',' directive.value).mapM (readVerb directive)

def lastVerbs (directives : List Directive) (key : String) : Except TagError (List Verb) :=
  match Directive.last? key directives with
  | some directive => readVerbs directive
  | none => .ok []

def rejectKept (directives : List Directive) (skip kept : List Verb) : Except TagError Unit :=
  match Directive.last? skipVerbsKey directives, skip.find? (fun verb => kept.contains verb) with
  | some directive, some verb => .error ⟨directive.line,.verbKeptAndSkipped verb⟩
  | _, _ => .ok ()

def readResourceName (directives : List Directive) : Except TagError (Option String) :=
  match Directive.last? resourceNameKey directives with
  | none => .ok none
  | some directive =>
    if directive.value == "" || directive.value.toList.any Text.isBlank then
      .error ⟨directive.line,.resourceNotOneWord⟩
    else .ok (some directive.value)

def mentions (directives : List Directive) (key : String) : Bool :=
  directives.any (·.key == key)

/-- Reads the directives. Of a directive with a value the last occurrence counts. -/
def ofDirectives (directives : List Directive) : Except TagError TagSet := do
  rejectValue directives clientKey .valueOnClient
  legacyKeys.forM fun key => rejectValue directives key (.legacyForm key)
  let skip ← lastVerbs directives skipVerbsKey
  let only ← lastVerbs directives onlyVerbsKey
  let kept := (if mentions directives readOnlyKey then Verb.readOnly else []) ++ only
  rejectKept directives skip kept
  let resourceName ← readResourceName directives
  return {
    generateClient := mentions directives clientKey
    nonNamespaced := mentions directives nonNamespacedKey
    noStatus := mentions directives noStatusKey
    noVerbs := mentions directives noVerbsKey
    skipVerbs :=
      if kept.isEmpty then Verb.canonical skip
      else Verb.all.filter fun verb => !kept.contains verb
    resourceName }

def parse (lines : List String) : Except TagError TagSet :=
  ofDirectives (Directive.ofLines Directive.defaultMarker lines)

def unknownKeys (lines : List String) : List String :=
  (Directive.keys (Directive.ofLines Directive.defaultMarker lines)).filter fun key =>
    (clientKey.toList.isPrefixOf key.toList) && !supportedKeys.contains key

/-- A warning for each directive that is not understood, once the others have been read. -/
def warnings (lines : List String) : List Event :=
  match parse lines with
  | .error _ => []
  | .ok _ => (unknownKeys lines).map fun key =>
      ⟨.warn,"ignoring unknown genclient directive",[("tag",key)]⟩

def namespaced (tags : TagSet) : Bool := !tags.nonNamespaced

/-- The client has a verb unless it has none at all or leaves that one out. -/
def hasVerb (tags : TagSet) (verb : Verb) : Bool :=
  !tags.noVerbs && !tags.skipVerbs.contains verb

end TagSet

end InformerGen
