import InformerGen.Proofs.Naming.Keys
import InformerGen.Proofs.Naming.Systems
import Mathlib.Tactic.SplitIfs

/-! Plurals of identifiers are identifiers. The rules for endings put small letters with an `s` at the
end in place of two characters at most, so nothing but the end of a name is changed, and no keyword can
come of it, since none ends like that. With a capital first it cannot be a keyword either. -/
namespace InformerGen

namespace Identifier

/-- An identifier that is known outside its package, in ASCII: no small letter comes first. -/
def Public (name : String) : Prop :=
  isIdentifier name = true ∧ ∃ c rest, name.toList = c::rest ∧ c.toNat < 0x80 ∧ c.isLower = false

theorem toUpper_of_ascii {c : Char} (low : c.toNat < 0x80) (opened : opens c = true) :
    opens c.toUpper = true ∧ c.toUpper.toNat < 0x80 ∧ c.toUpper.isLower = false := by
  revert opened
  exact Text.of_low c low (by decide)

theorem toLower_of_ascii {c : Char} (low : c.toNat < 0x80) :
    opens c.toLower = opens c ∧ continues c.toLower = continues c :=
  Text.of_low c low (by decide)

theorem keywords_ending : ∀ keyword ∈ keywords,
    keyword.toList.getLast? ≠ some 's' ∧ 2 ≤ keyword.toList.length := by
  decide

section

variable {name : String}

theorem isIdentifier_of_wellSpelled (spelled : wellSpelled name.toList = true)
    (plain : name ∉ keywords) : isIdentifier name = true := by
  rw [isIdentifier,spelled,Bool.true_and,Bool.not_eq_true']
  by_contra keyword
  rw [Bool.not_eq_false] at keyword
  exact plain (mem_keywords_of_isKeyword keyword)

theorem isIdentifier_of_capital (spelled : wellSpelled name.toList = true) {c : Char}
    {rest : List Char} (chars : name.toList = c::rest) (capital : c.isLower = false) :
    isIdentifier name = true := by
  apply isIdentifier_of_wellSpelled spelled
  intro keyword
  obtain ⟨_,small,_⟩ := keywords_small _ keyword
  rw [chars,List.all_cons,capital] at small
  cases small

theorem isIdentifier_of_ending (spelled : wellSpelled name.toList = true)
    (ending : name.toList.getLast? = some 's' ∨ name.toList.length < 2) :
    isIdentifier name = true := by
  apply isIdentifier_of_wellSpelled spelled
  intro keyword
  obtain ⟨other,long⟩ := keywords_ending _ keyword
  rcases ending with same | short
  · exact other same
  · omega

theorem wellSpelled_of_isIdentifier (named : isIdentifier name = true) :
    wellSpelled name.toList = true :=
  (Bool.and_eq_true _ _ |>.mp named).1

theorem public_capitalize (ascii : Text.Ascii name) (named : isIdentifier name = true) :
    Public (Text.capitalize name) := by
  have spelled := wellSpelled_of_isIdentifier named
  cases chars : name.toList with
  | nil =>
    rw [chars] at spelled
    cases spelled
  | cons c rest =>
    have low := ascii c (chars ▸ List.mem_cons_self)
    have capitalized := Text.toList_capitalize chars low
    rw [chars,wellSpelled,Bool.and_eq_true] at spelled
    obtain ⟨opened,upperLow,capital⟩ := toUpper_of_ascii low spelled.1
    refine ⟨?_,_,_,capitalized,upperLow,capital⟩
    apply isIdentifier_of_capital _ capitalized capital
    rw [capitalized,wellSpelled,opened,spelled.2]
    rfl

theorem wellSpelled_map_toLower {text : List Char} (ascii : ∀ c ∈ text, c.toNat < 0x80) :
    wellSpelled (text.map Char.toLower) = wellSpelled text := by
  cases text with
  | nil => rfl
  | cons c rest =>
    obtain ⟨low,others⟩ := List.forall_mem_cons.mp ascii
    rw [List.map_cons,wellSpelled,wellSpelled,(toLower_of_ascii low).1,List.all_map]
    congr 1
    rw [Bool.eq_iff_iff,List.all_eq_true,List.all_eq_true]
    refine forall₂_congr fun d member => ?_
    rw [Function.comp_apply,(toLower_of_ascii (others d member)).2]

theorem isIdentifier_lowercase (ascii : Text.Ascii name) (named : isIdentifier name = true)
    (ending : name.toList.getLast? = some 's' ∨ name.toList.length < 2) :
    isIdentifier (Text.lowercase name) = true := by
  have chars := Text.toList_lowercase ascii
  apply isIdentifier_of_ending
  · rw [chars,wellSpelled_map_toLower ascii]
    exact wellSpelled_of_isIdentifier named
  · rw [chars,List.getLast?_map,List.length_map]
    refine ending.imp_left fun last => ?_
    rw [last]
    rfl

theorem wellSpelled_append {stem rest ending : List Char}
    (spelled : wellSpelled (stem ++ rest) = true) (small : ∀ c ∈ ending, c.isLower = true)
    (nonempty : ending ≠ []) : wellSpelled (stem ++ ending) = true := by
  cases stem with
  | nil => exact wellSpelled_of_small small nonempty
  | cons c stem =>
    rw [List.cons_append,wellSpelled,List.all_append,Bool.and_eq_true,Bool.and_eq_true] at spelled ⊢
    refine ⟨spelled.1,spelled.2.1,List.all_eq_true.mpr fun d member => ?_⟩
    exact continues_of_isLetter (spelled_of_isLower (small d member)).1

end

end Identifier

namespace Naming

/-- The second list of characters is the first with small letters, of which the last is an `s`, in place
of two characters or less, and is the longer of the two. -/
structure Inflected (singular plural : List Char) (stem rest ending : List Char) : Prop where
  singular : singular = stem ++ rest
  plural : plural = stem ++ ending
  atMost : rest.length ≤ 2
  longer : rest.length < ending.length
  small : ∀ c ∈ ending, c.isLower = true
  last : ending.getLast? = some 's'

theorem pluralEnding_spec (beforeLast last : Char) :
    (pluralEnding beforeLast last).1 ≤ 2 ∧
      (pluralEnding beforeLast last).1 < (pluralEnding beforeLast last).2.toList.length ∧
      (pluralEnding beforeLast last).2.toList.all Char.isLower = true ∧
      (pluralEnding beforeLast last).2.toList.getLast? = some 's' := by
  unfold pluralEnding
  split_ifs <;> decide

theorem pluralize_of_backwards {singular : String} {last beforeLast : Char} {others : List Char}
    (backwards : singular.toList.reverse = last::beforeLast::others) :
    pluralize singular =
      String.ofList ((last::beforeLast::others).drop (pluralEnding beforeLast last).1).reverse ++
        (pluralEnding beforeLast last).2 := by
  rw [pluralize,backwards]

theorem pluralize_of_short {singular : String} (short : singular.toList.length < 2) :
    pluralize singular = singular := by
  unfold pluralize
  split
  next last beforeLast rest backwards =>
    have lengths := congrArg List.length backwards
    simp only [List.length_reverse,List.length_cons] at lengths
    omega
  next => rfl

theorem exists_backwards {text : List Char} (long : 2 ≤ text.length) :
    ∃ last beforeLast others, text.reverse = last::beforeLast::others := by
  rw [← List.length_reverse] at long
  match text.reverse,long with
  | last::beforeLast::others,_ => exact ⟨last,beforeLast,others,rfl⟩

theorem exists_inflected {singular : String} (long : 2 ≤ singular.toList.length) :
    ∃ stem rest ending, Inflected singular.toList (pluralize singular).toList stem rest ending := by
  obtain ⟨last,beforeLast,others,backwards⟩ := exists_backwards long
  obtain ⟨atMost,longer,small,final⟩ := pluralEnding_spec beforeLast last
  have plural := pluralize_of_backwards backwards
  generalize pluralEnding beforeLast last = ending at *
  have dropped : ((last::beforeLast::others).take ending.1).reverse.length = ending.1 := by
    rw [List.length_reverse,List.length_take,List.length_cons,List.length_cons]
    omega
  refine ⟨((last::beforeLast::others).drop ending.1).reverse,
    ((last::beforeLast::others).take ending.1).reverse,ending.2.toList,?_,?_,?_,?_,?_,final⟩
  · rw [← List.reverse_append,List.take_append_drop,← backwards,List.reverse_reverse]
  · rw [plural,String.toList_append,String.toList_ofList]
  · rw [dropped]
    exact atMost
  · rw [dropped]
    exact longer
  · exact List.all_eq_true.mp small

/-- An identifier with an `s` at the end that is another one than the singular and has all of its
characters, or all but the last one or two. -/
structure PluralOf (singular plural : String) : Prop where
  identifier : Identifier.isIdentifier plural = true
  last : plural.toList.getLast? = some 's'
  ne : plural ≠ singular
  shares : ∃ stem rest ending, singular.toList = stem ++ rest ∧ rest.length ≤ 2 ∧
    plural.toList = stem ++ ending

section

variable {singular plural : String} {stem rest ending : List Char}

theorem Inflected.last_eq
    (inflected : Inflected singular.toList plural.toList stem rest ending) :
    plural.toList.getLast? = some 's' := by
  rw [inflected.plural,List.getLast?_append,inflected.last]
  rfl

theorem Inflected.pluralOf (inflected : Inflected singular.toList plural.toList stem rest ending)
    (named : Identifier.isIdentifier singular = true) : PluralOf singular plural where
  identifier := by
    apply Identifier.isIdentifier_of_ending _ (.inl inflected.last_eq)
    have spelled := Identifier.wellSpelled_of_isIdentifier named
    rw [inflected.singular] at spelled
    rw [inflected.plural]
    apply Identifier.wellSpelled_append spelled inflected.small
    rintro rfl
    cases inflected.last
  last := inflected.last_eq
  ne := by
    rintro rfl
    have lengths := congrArg List.length (inflected.singular.symm.trans inflected.plural)
    rw [List.length_append,List.length_append] at lengths
    have longer := inflected.longer
    omega
  shares := ⟨stem,rest,ending,inflected.singular,inflected.atMost,inflected.plural⟩

theorem Inflected.ascii (inflected : Inflected singular.toList plural.toList stem rest ending)
    (ascii : Text.Ascii singular) : Text.Ascii plural := by
  rw [Text.Ascii,inflected.singular,List.forall_mem_append] at ascii
  rw [Text.Ascii,inflected.plural,List.forall_mem_append]
  exact ⟨ascii.1,fun c member => Text.low_of_isLower (inflected.small c member)⟩

theorem pluralOf_pluralize (named : Identifier.isIdentifier singular = true)
    (long : 2 ≤ singular.toList.length) : PluralOf singular (pluralize singular) := by
  obtain ⟨stem,rest,ending,inflected⟩ := exists_inflected long
  exact inflected.pluralOf named

theorem isIdentifier_pluralize (named : Identifier.isIdentifier singular = true) :
    Identifier.isIdentifier (pluralize singular) = true := by
  by_cases short : singular.toList.length < 2
  · rwa [pluralize_of_short short]
  · exact (pluralOf_pluralize named (by omega)).identifier

theorem ascii_pluralize (ascii : Text.Ascii singular) : Text.Ascii (pluralize singular) := by
  by_cases short : singular.toList.length < 2
  · rwa [pluralize_of_short short]
  · obtain ⟨stem,rest,ending,inflected⟩ := exists_inflected (Nat.le_of_not_lt short)
    exact inflected.ascii ascii

theorem isIdentifier_lowercase_pluralize (ascii : Text.Ascii singular)
    (named : Identifier.isIdentifier singular = true) :
    Identifier.isIdentifier (Text.lowercase (pluralize singular)) = true := by
  apply Identifier.isIdentifier_lowercase (ascii_pluralize ascii) (isIdentifier_pluralize named)
  by_cases short : singular.toList.length < 2
  · rw [pluralize_of_short short]
    exact .inr short
  · exact .inl (pluralOf_pluralize named (by omega)).last

end

end Naming

def PluralTable.Ascii (irregular : PluralTable) : Prop :=
  ∀ singular plural, irregular.get? singular = some plural → Text.Ascii plural

theorem Namer.public_capitalizedPlural {irregular : PluralTable} (legal : irregular.Legal)
    (asciiPlurals : irregular.Ascii) {type : TypeDescriptor} (ascii : Text.Ascii type.name.name)
    (named : Identifier.isIdentifier type.name.name = true) :
    Identifier.Public ((Namer.capitalizedPlural irregular).nameOf type) := by
  rw [nameOf,plural]
  cases found : irregular.get? type.name.name with
  | some plural => exact Identifier.public_capitalize (asciiPlurals _ _ found) (legal _ _ found)
  | none =>
    exact Identifier.public_capitalize (Naming.ascii_pluralize ascii)
      (Naming.isIdentifier_pluralize named)

namespace NameSystems

/-- The public plural of a type without an exception is a public identifier. A regular plural differs
from the name at its end, where it has an `s`, and is an identifier in lower case as well. -/
theorem plurals_legal {tables : NamingTables} {type : TypeDescriptor}
    (ascii : Text.Ascii type.name.name)
    (named : Identifier.isIdentifier type.name.name = true) (legal : tables.irregular.Legal)
    (asciiPlurals : tables.irregular.Ascii)
    (unexcepted : tables.exceptions.get? (NamingKey.doubled.ofType type) = none) :
    (∃ plural, (ofTables tables).name? capitalizedPluralId type = some plural ∧
      Identifier.Public plural) ∧
    (tables.irregular.get? type.name.name = none →
      let plural := Naming.pluralize type.name.name
      (type.name.name.length < 2 → plural = type.name.name) ∧
      (2 ≤ type.name.name.length → Naming.PluralOf type.name.name plural) ∧
      (ofTables tables).name? lowercasePluralId type = some (Text.lowercase plural) ∧
      Identifier.isIdentifier (Text.lowercase plural) = true) := by
  refine ⟨⟨_,?_,Namer.public_capitalizedPlural legal asciiPlurals ascii named⟩,fun regular => ?_⟩
  · rw [name?_capitalizedPlural,unexcepted]
    rfl
  · rw [← String.length_toList]
    refine ⟨Naming.pluralize_of_short,Naming.pluralOf_pluralize named,?_,
      Naming.isIdentifier_lowercase_pluralize ascii named⟩
    rw [name?_lowercasePlural,Namer.nameOf,Namer.plural,regular]
    rfl

theorem fe_and_child_legal :
    let tables := (NamingTables.standard.withPlural "Child" "children").withException
      "api.EventEvent" "EventResource"
    let iron := TypeDescriptor.plain "api" "fe"
    let child := TypeDescriptor.plain "api" "Child"
    (tables.irregular.Legal ∧ tables.irregular.Ascii) ∧
      ((ofTables tables).name? capitalizedPluralId iron = some "Ves" ∧ Identifier.Public "Ves" ∧
        Naming.PluralOf "fe" "ves" ∧ Identifier.isIdentifier "ves" = true) ∧
      (ofTables tables).name? capitalizedPluralId child = some "Children" ∧
      Identifier.Public "Children" := by
  intro tables iron child
  have ascii : Text.Ascii "fe" ∧ Text.Ascii "Child" := by decide
  have named : Identifier.isIdentifier "fe" = true ∧ Identifier.isIdentifier "Child" = true := by
    decide
  have legal : tables.irregular.Legal ∧ tables.irregular.Ascii := by
    have all : tables.irregular.entries.all (fun entry =>
        Identifier.isIdentifier entry.2 && decide (Text.Ascii entry.2)) = true := by
      decide
    simp only [List.all_eq_true,Bool.and_eq_true,decide_eq_true_eq] at all
    refine ⟨fun singular plural found => ?_,fun singular plural found => ?_⟩
    · exact (all _ ((OrderedMap.mem_entries_iff _ _ _).mpr found)).1
    · exact (all _ ((OrderedMap.mem_entries_iff _ _ _).mpr found)).2
  obtain ⟨⟨_,known,capital⟩,regular⟩ :=
    @plurals_legal tables iron ascii.1 named.1 legal.1 legal.2 (by decide)
  obtain ⟨⟨_,otherKnown,otherCapital⟩,_⟩ :=
    @plurals_legal tables child ascii.2 named.2 legal.1 legal.2 (by decide)
  have ves : (ofTables tables).name? capitalizedPluralId iron = some "Ves" := by decide
  have children : (ofTables tables).name? capitalizedPluralId child = some "Children" := by decide
  cases ves.symm.trans known
  cases children.symm.trans otherKnown
  have plural : Naming.pluralize iron.name.name = "ves" := by decide
  have lower : Text.lowercase "ves" = "ves" := by decide
  obtain ⟨_,inflected,_,identifier⟩ := regular (by decide)
  rw [plural] at inflected identifier
  rw [lower] at identifier
  exact ⟨legal,⟨ves,capital,inflected (by decide),identifier⟩,children,otherCapital⟩

end NameSystems

end InformerGen
