import InformerGen.Informer
import InformerGen.Proofs.Template
import InformerGen.Proofs.Template.Grammar

/-! The template of a file, segment by segment, and the text that comes of it. Each of the symbols that
a file names stands in that text on its own, so that it is read as this symbol and no other. -/
namespace InformerGen.Informer

def segments : List Segment := [
  .text "func init() \x7b\n\t",
  .placeholder ⟨"injectionRegisterInformer",none,15⟩,
  .text <| "(withInformer)\n\x7d\n\n// key is used as the context key for the informer.\n" ++
    "type key struct\x7b\x7d\n\nfunc withInformer(ctx ",
  .placeholder ⟨"contextContext",none,156⟩,
  .text ") (",
  .placeholder ⟨"contextContext",none,178⟩,
  .text ", ",
  .placeholder ⟨"controllerInformer",none,199⟩,
  .text ") \x7b\n\tf := ",
  .placeholder ⟨"factoryGet",none,232⟩,
  .text "(ctx)\n\tinf := f.",
  .placeholder ⟨"group",none,263⟩,
  .text "().",
  .placeholder ⟨"version",none,276⟩,
  .text "().",
  .placeholder ⟨"type",some NameSystems.capitalizedPluralId,291⟩,
  .text "()\n\treturn ",
  .placeholder ⟨"contextWithValue",none,324⟩,
  .text <| "(ctx, key\x7b\x7d, inf), inf.Informer()\n\x7d\n\n" ++
    "// Namespaced reports whether ",
  .placeholder ⟨"type",some NameSystems.resourceId,412⟩,
  .text " live in a namespace.\nconst Namespaced = ",
  .placeholder ⟨"namespaced",none,471⟩,
  .text "\n\n// Get extracts the ",
  .placeholder ⟨"typeName",none,508⟩,
  .text " informer from the context.\nfunc Get(ctx ",
  .placeholder ⟨"contextContext",none,562⟩,
  .text ") ",
  .placeholder ⟨"informersTypedInformer",none,583⟩,
  .text " \x7b\n\tinf, _ := ctx.Value(key\x7b\x7d).(",
  .placeholder ⟨"informersTypedInformer",none,642⟩,
  .text ")\n\treturn inf\n\x7d\n"]

theorem toList_templateText :
    templateText.toList = templateLines.flatMap fun line => line.toList ++ ['\n'] := by
  simp [templateText,List.flatMap_map]

theorem parse_templateText : Template.parse templateText = .ok ⟨segments⟩ := by
  have read : (Template.segmentsWithin
      (templateLines.flatMap fun line => line.toList ++ ['\n']).length 0
      (templateLines.flatMap fun line => line.toList ++ ['\n'])).toOption = some segments := by
    -- line by line, since the characters of a long text are slow to come by
    simp only [templateLines,slot,List.flatMap_cons,List.flatMap_nil,String.toList_append]
    decide +kernel
  rw [Template.parse,toList_templateText,Template.segmentsFrom_eq_within (Nat.le_refl _)]
  cases result : Template.segmentsWithin _ 0 _ with
  | error error =>
    rw [result] at read
    cases read
  | ok found =>
    rw [result] at read
    obtain rfl := Option.some.inj read
    rfl

/-- The text of a file, piece by piece: what the template has as it stands, and in between what has
been put in. -/
def pieces (write : SymbolRef → String) (config : GeneratorConfig) (typeName plural resource : String)
    (namespaced : Bool) : List String := [
  "func init() \x7b\n\t",
  write (.ofFunction config.packages.injection "RegisterInformer"),
  "(withInformer)\n\x7d\n\n// key is used as the context key for the informer.\n" ++
    "type key struct\x7b\x7d\n\nfunc withInformer(ctx ",
  write (.ofType "context" "Context"),
  ") (",
  write (.ofType "context" "Context"),
  ", ",
  write (.ofType config.packages.controller "Informer"),
  ") \x7b\n\tf := ",
  write (.ofFunction config.packages.factory "Get"),
  "(ctx)\n\tinf := f.",
  config.group.groupGoName,
  "().",
  config.group.versionGoName,
  "().",
  plural,
  "()\n\treturn ",
  write (.ofFunction "context" "WithValue"),
  "(ctx, key\x7b\x7d, inf), inf.Informer()\n\x7d\n\n" ++
    "// Namespaced reports whether ",
  resource,
  " live in a namespace.\nconst Namespaced = ",
  if namespaced then "true" else "false",
  "\n\n// Get extracts the ",
  Text.capitalize typeName,
  " informer from the context.\nfunc Get(ctx ",
  write (.ofType "context" "Context"),
  ") ",
  write (.ofType config.packages.typedInformers (typeName ++ "Informer")),
  " \x7b\n\tinf, _ := ctx.Value(key\x7b\x7d).(",
  write (.ofType config.packages.typedInformers (typeName ++ "Informer")),
  ")\n\treturn inf\n\x7d\n"]

def fileText (write : SymbolRef → String) (config : GeneratorConfig)
    (typeName plural resource : String) (namespaced : Bool) : String :=
  String.join (pieces write config typeName plural resource namespaced)

def named (packages : PackagePaths) (typeName : String) : List SymbolRef := [
  .ofFunction packages.injection "RegisterInformer",
  .ofType packages.controller "Informer",
  .ofType "context" "Context",
  .ofFunction "context" "WithValue",
  .ofFunction packages.factory "Get",
  .ofType packages.typedInformers (typeName ++ "Informer")]

def dependencies (packages : PackagePaths) : List String :=
  [packages.injection,packages.controller,"context",packages.factory,packages.typedInformers]

theorem mem_dependencies_iff {packages : PackagePaths} {typeName path : String} :
    path ∈ dependencies packages ↔ ∃ symbol ∈ named packages typeName, symbol.package = path := by
  simp only [dependencies,named,List.mem_cons,List.not_mem_nil,or_false,exists_eq_or_imp,
    exists_eq_left,SymbolRef.package,SymbolRef.ofFunction,SymbolRef.ofType]
  -- two of the symbols are of the package `context`
  simp only [eq_comm (a := path),or_self_left]

/-- A character that neither continues a name nor qualifies one. -/
def separates (c : Char) : Bool := !Identifier.continues c && c != '.'

/-- The word stands in the text on its own: neither a part of a name nor a dot touches it. -/
def Stands (word text : String) : Prop :=
  ∃ before after : String, text = before ++ word ++ after ∧
    before.toList.getLast?.all separates = true ∧ after.toList.head?.all separates = true

theorem all_or_of_any {p : Char → Bool} {first second : Option Char}
    (any : first.any p = true) : (first.or second).all p = true := by
  obtain ⟨c,rfl,holds⟩ := (Option.any_eq_true _ _).mp any
  exact holds

theorem stands_join {texts : List String} {left word right : String} (place : Nat)
    (leftAt : texts[place]? = some left) (wordAt : texts[place + 1]? = some word)
    (rightAt : texts[place + 2]? = some right)
    (leftEnds : left.toList.getLast?.any separates = true)
    (rightStarts : right.toList.head?.any separates = true) :
    Stands word (String.join texts) := by
  obtain ⟨inside,rfl⟩ := List.getElem?_eq_some_iff.mp leftAt
  obtain ⟨wordInside,rfl⟩ := List.getElem?_eq_some_iff.mp wordAt
  obtain ⟨rightInside,rfl⟩ := List.getElem?_eq_some_iff.mp rightAt
  have parts : String.join texts = String.join (texts.take place) ++ (texts[place] ++
      (texts[place + 1] ++ (texts[place + 2] ++ String.join (texts.drop (place + 3))))) := by
    rw [← String.join_cons,← String.join_cons,← String.join_cons,← List.drop_eq_getElem_cons,
      ← List.drop_eq_getElem_cons,← List.drop_eq_getElem_cons,← String.join_append,
      List.take_append_drop]
  refine ⟨String.join (texts.take place) ++ texts[place],
    texts[place + 2] ++ String.join (texts.drop (place + 3)),?_,?_,?_⟩
  · rw [parts,String.append_assoc,String.append_assoc]
  · rw [String.toList_append,List.getLast?_append]
    exact all_or_of_any leftEnds
  · rw [String.toList_append,List.head?_append]
    exact all_or_of_any rightStarts

variable {write : SymbolRef → String} {config : GeneratorConfig}
  {typeName plural resource : String} {namespaced : Bool}

theorem head?_fileText :
    (fileText write config typeName plural resource namespaced).toList.head? = some 'f' := by
  rw [fileText,pieces,String.join_cons,String.toList_append,List.head?_append]
  rfl

theorem getLast?_fileText :
    (fileText write config typeName plural resource namespaced).toList.getLast? = some '\n' := by
  have parts := List.take_append_drop 30 (pieces write config typeName plural resource namespaced)
  have last : (pieces write config typeName plural resource namespaced).drop 30 =
      [")\n\treturn inf\n\x7d\n"] := rfl
  have ends : (String.join [")\n\treturn inf\n\x7d\n"]).toList.getLast? = some '\n' := by
    decide +kernel
  rw [fileText,← parts,String.join_append,String.toList_append,List.getLast?_append,last,ends,
    Option.some_or]

theorem stands_of_named : ∀ symbol ∈ named config.packages typeName,
    Stands (write symbol) (fileText write config typeName plural resource namespaced) := by
  simp only [named,List.forall_mem_cons,fileText]
  refine ⟨?_,?_,?_,?_,?_,?_,by simp⟩
  · exact stands_join 0 rfl rfl rfl (by decide +kernel) (by decide +kernel)
  · exact stands_join 6 rfl rfl rfl (by decide +kernel) (by decide +kernel)
  · exact stands_join 2 rfl rfl rfl (by decide +kernel) (by decide +kernel)
  · exact stands_join 16 rfl rfl rfl (by decide +kernel) (by decide +kernel)
  · exact stands_join 8 rfl rfl rfl (by decide +kernel) (by decide +kernel)
  · exact stands_join 26 rfl rfl rfl (by decide +kernel) (by decide +kernel)

end InformerGen.Informer
