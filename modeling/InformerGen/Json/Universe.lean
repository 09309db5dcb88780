import InformerGen.Json
import InformerGen.Universe

/-! The JSON form of types, packages and universes. -/
namespace InformerGen

namespace Json

def required {α : Type} (read : Json → Option α) (field : Option Json) : Option α := field.bind read

def optional {α : Type} (read : Json → Option α) (default : α) : Option Json → Option α
  | none => some default
  | some value => read value

def ofTexts (texts : List String) : Json := .array (texts.map .string)

def ofSet (set : OrderedSet) : Json := ofTexts set.keys

def set? (value : Json) : Option OrderedSet := value.texts?.map OrderedSet.ofTexts

def ofMap {α : Type} (encode : α → Json) (map : OrderedMap α) : Json :=
  .object (map.entries.map fun entry => (entry.1,encode entry.2))

/-- Of a name that stands more than once the last member counts. -/
def map? {α : Type} (read : Json → Option α) (value : Json) : Option (OrderedMap α) := do
  let members ← value.members?
  let entries ← members.mapM fun member => (read member.2).map (member.1,·)
  return OrderedMap.ofList entries

end Json

namespace Name

def toJson (name : Name) : Json :=
  .object [("package",.string name.package),("name",.string name.name)]

def ofJson? (value : Json) : Option Name :=
  match value.fields? ["package","name"] with
  | some [package,name] => do
    return ⟨← Json.required Json.text? package,← Json.required Json.text? name⟩
  | _ => none

end Name

namespace TypeDescriptor

def toJson (type : TypeDescriptor) : Json :=
  .object [
    ("name",type.name.toJson),
    ("comment_lines",.ofTexts type.comments),
    ("second_closest_comment_lines",.ofTexts type.inherited),
    ("members",.ofTexts type.members)]

def ofJson? (value : Json) : Option TypeDescriptor :=
  match value.fields? ["name","comment_lines","second_closest_comment_lines","members"] with
  | some [name,comments,inherited,members] => do
    return {
      name := ← Json.required Name.ofJson? name
      comments := ← Json.optional Json.texts? [] comments
      inherited := ← Json.optional Json.texts? [] inherited
      members := ← Json.optional Json.texts? [] members }
  | _ => none

end TypeDescriptor

namespace Package

def toJson (package : Package) : Json :=
  .object [
    ("path",.string package.path),
    ("types",.ofMap TypeDescriptor.toJson package.types),
    ("functions",.ofSet package.functions),
    ("variables",.ofSet package.vars)]

def ofJson? (value : Json) : Option Package :=
  match value.fields? ["path","types","functions","variables"] with
  | some [path,types,functions,vars] => do
    return {
      path := ← Json.required Json.text? path
      types := ← Json.required (Json.map? TypeDescriptor.ofJson?) types
      functions := ← Json.required Json.set? functions
      vars := ← Json.required Json.set? vars }
  | _ => none

end Package

namespace Universe

def toJson (known : Universe) : Json := .object [("packages",.ofMap Package.toJson known.packages)]

def ofJson? (value : Json) : Option Universe :=
  match value.fields? ["packages"] with
  | some [packages] => do return ⟨← Json.required (Json.map? Package.ofJson?) packages⟩
  | _ => none

end Universe

end InformerGen
