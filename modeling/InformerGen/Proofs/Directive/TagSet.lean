import InformerGen.Proofs.Directive.Grammar
import InformerGen.Proofs.Naming.Systems

/-! The name of a resource is the one that the last directive on it gives. Namers that follow the
directives take it as it is, since it is not empty, so that the set of directives and the naming system
for resources agree on every type whose comments can be read. -/
namespace InformerGen

namespace TagSet

variable {lines : List String} {tags : TagSet}

theorem resourceName_of_parse (parsed : parse lines = .ok tags) :
    tags.resourceName = Directive.lastValue? resourceNameKey lines ∧
      ∀ name, tags.resourceName = some name → OneWord name := by
  obtain ⟨formed,describes⟩ := (reads_parse lines).holds parsed
  refine ⟨Option.ext fun name => ?_,fun name given => ?_⟩
  · rw [describes.resourceName,Directive.lastValue?_eq_some_iff]
  · obtain ⟨line,decides⟩ := (describes.resourceName name).mp given
    exact formed.resource line name decides

end TagSet

theorem Namer.nameOf_directed {type : TypeDescriptor} {tags : TagSet}
    (parsed : TagSet.parse type.lines = .ok tags) (otherwise : Namer) :
    (Namer.directed TagSet.resourceNameKey otherwise).nameOf type =
      tags.resourceName.getD (otherwise.nameOf type) := by
  obtain ⟨given,words⟩ := TagSet.resourceName_of_parse parsed
  rw [Namer.nameOf,← given]
  cases named : tags.resourceName with
  | none => rfl
  | some name => exact if_neg (words name named).1

def Text.lineBreaks : List Char := ['\n','\x0b','\x0c','\r','\u0085','\u2028','\u2029']

theorem TagSet.OneWord.lineBreaks_notMem {text : String} (word : OneWord text) :
    ∀ c ∈ Text.lineBreaks, c ∉ text.toList := by
  have blank : Text.lineBreaks.all Text.isBlank = true := by decide
  intro c breaks member
  have unblank := word.2 c member
  rw [List.all_eq_true.mp blank c breaks] at unblank
  cases unblank

namespace NameSystems

variable {type : TypeDescriptor} {tags : TagSet}

/-- Whatever the naming tables are, the system for resources has the name that the set of directives
has, and that is one word on one line. Without a name in the set it has the plural in lower case. -/
theorem resource_by_directives (tables : NamingTables)
    (parsed : TagSet.parse type.lines = .ok tags) :
    (∀ name, tags.resourceName = some name → (ofTables tables).name? resourceId type = some name ∧
      TagSet.OneWord name ∧ ∀ c ∈ Text.lineBreaks, c ∉ name.toList) ∧
    (tags.resourceName = none → ∃ plural,
      (ofTables tables).name? lowercasePluralId type = some plural ∧
      (ofTables tables).name? resourceId type = some plural) := by
  rw [name?_lowercasePlural,name?_resource,Namer.nameOf_directed parsed]
  constructor
  · intro name given
    have word := (TagSet.resourceName_of_parse parsed).2 name given
    rw [given]
    exact ⟨rfl,word,word.lineBreaks_notMem⟩
  · intro absent
    rw [absent]
    exact ⟨_,rfl,rfl⟩

/-- The type's own line overrides an inherited one without a value; another type has no such line. -/
theorem routes_by_directives :
    let route : TypeDescriptor := ⟨⟨"api","Route"⟩,["Route is one."," +resourceName=a=b "],
      ["+resourceName"],[]⟩
    let bus : TypeDescriptor := ⟨⟨"api","Bus"⟩,["+genclient"],["resourceName=coach"],[]⟩
    (TagSet.parse route.lines = .ok ⟨false,false,false,false,[],some "a=b"⟩ ∧
      (ofTables .standard).name? resourceId route = some "a=b") ∧
    TagSet.parse bus.lines = .ok ⟨true,false,false,false,[],none⟩ ∧
      (ofTables .standard).name? lowercasePluralId bus = some "buses" ∧
      (ofTables .standard).name? resourceId bus = some "buses" := by
  intro route bus
  have results : TagSet.parse route.lines = .ok ⟨false,false,false,false,[],some "a=b"⟩ ∧
      TagSet.parse bus.lines = .ok ⟨true,false,false,false,[],none⟩ ∧
      (ofTables .standard).name? lowercasePluralId bus = some "buses" := by
    decide
  obtain ⟨routeParsed,busParsed,plural⟩ := results
  obtain ⟨other,lower,resource⟩ := (resource_by_directives .standard busParsed).2 rfl
  rw [plural] at lower
  cases lower
  exact ⟨⟨routeParsed,((resource_by_directives .standard routeParsed).1 _ rfl).1⟩,busParsed,plural,
    resource⟩

end NameSystems

end InformerGen
