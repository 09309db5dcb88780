import InformerGen.Json.Reader
import Mathlib.Data.List.Basic

/-! The text of a value is read as this value, whatever follows it. Each character of a string comes back
from its own escape; lists and records hand the rest of the text from item to item. -/
namespace InformerGen.Json

namespace Reader

variable {c : Char} {text rest : List Char}

/-- What a string says when this character stands before what has been read of it. -/
def spoken (c : Char) (read : Spoken × List Char) : Spoken × List Char := (read.1.say c,read.2)

theorem readString_plain (high : 0x20 ≤ c.toNat) (quote : c ≠ '"') (backslash : c ≠ '\\') :
    readString (c::text) = (readString text).map (spoken c) := by
  rw [readString]
  · have low : (decide (c.toNat < 0x20) || c == '\\') = false := by simp [high,backslash]
    rw [low,if_neg Bool.false_ne_true]
    cases readString text <;> rfl
  all_goals simp_all

theorem readString_short {letter : Char} (known : escaped? letter = some c) (other : letter ≠ 'u') :
    readString ('\\'::letter::text) = (readString text).map (spoken c) := by
  rw [readString,known]
  · cases readString text <;> rfl
  all_goals simp_all

theorem readString_control (control : c.toNat < 0x20) :
    readString ('\\' :: 'u' :: '0' :: '0' :: Nat.digitChar (c.toNat / 16) ::
        Nat.digitChar (c.toNat % 16)::text) =
      (readString text).map (spoken c) := by
  have unit : Text.hexNumber? ['0','0',Nat.digitChar (c.toNat / 16),Nat.digitChar (c.toNat % 16)] =
      some c.toNat := by
    have all : ∀ n < 0x20, Text.hexNumber? ['0','0',Nat.digitChar (n / 16),Nat.digitChar (n % 16)] =
        some n := by decide
    exact all c.toNat control
  have high : isHighSurrogate c.toNat = false := by
    rw [isHighSurrogate,Bool.and_eq_false_iff,decide_eq_false_iff_not]
    omega
  have low : isLowSurrogate c.toNat = false := by
    rw [isLowSurrogate,Bool.and_eq_false_iff,decide_eq_false_iff_not]
    omega
  rw [readString,unit]
  simp only [Option.bind_eq_bind,Option.bind_some,high,low,Bool.false_eq_true,if_false,Char.ofNat_toNat]
  cases readString text <;> rfl

theorem readString_escapeChar (c : Char) (text : List Char) :
    readString ((escapeChar c).toList ++ text) = (readString text).map (spoken c) := by
  unfold escapeChar
  split
  case h_8 =>
    split
    next control =>
      rw [← readString_control control]
      simp [hexPair]
    next high =>
      rw [Char.toString,String.toList_singleton]
      exact readString_plain (Nat.not_lt.mp high) (by assumption) (by assumption)
  all_goals exact readString_short rfl (by decide)

theorem readString_escaped (chars rest : List Char) :
    readString ((chars.flatMap fun c => (escapeChar c).toList) ++ '"'::rest) = some (some chars,rest) := by
  induction chars with
  | nil => rw [List.flatMap_nil,List.nil_append,readString]
  | cons c chars ih =>
    rw [List.flatMap_cons,List.append_assoc,readString_escapeChar,ih]
    rfl

theorem toList_quote (text : String) :
    (quote text).toList = '"'::(text.toList.flatMap fun c => (escapeChar c).toList) ++ ['"'] := by
  simp [quote,List.flatMap_map]

theorem exists_quote (text : String) (rest : List Char) : ∃ chars,
    (quote text).toList ++ rest = '"'::chars ∧ readString chars = some (some text.toList,rest) := by
  refine ⟨_,?_,readString_escaped text.toList rest⟩
  rw [toList_quote,List.cons_append,List.cons_append,List.append_assoc,List.singleton_append]

end Reader

/-- A value of texts, lists and records: one without numbers. -/
inductive Textual : Json → Prop
  | null : Textual null
  | bool (value : Bool) : Textual (bool value)
  | string (text : String) : Textual (string text)
  | array {items : List Json} (all : ∀ item ∈ items, Textual item) : Textual (array items)
  | object {members : List (String × Json)} (all : ∀ member ∈ members, Textual member.2) :
      Textual (object members)

open Reader

/-- The text opens with a character that no reader passes over and that closes nothing. -/
def Opens (text : List Char) : Prop :=
  ∃ c rest, text = c::rest ∧ isSpace c = false ∧ c ≠ ']' ∧ c ≠ '\x7d'

theorem skipSpace_cons {c : Char} (dark : isSpace c = false) (text : List Char) :
    skipSpace (c::text) = c::text := by
  rw [skipSpace,List.dropWhile_cons_of_neg]
  simp [dark]

theorem Opens.append {text : List Char} (opens : Opens text) (rest : List Char) :
    Opens (text ++ rest) := by
  obtain ⟨c,more,rfl,dark,bracket,brace⟩ := opens
  exact ⟨c,more ++ rest,rfl,dark,bracket,brace⟩

theorem opens_quote (text : String) : Opens (quote text).toList :=
  ⟨_,_,toList_quote text,by decide,by decide,by decide⟩

theorem opens_render {value : Json} (textual : Textual value) : Opens (render value).toList := by
  cases textual with
  | null => exact ⟨_,_,rfl,by decide,by decide,by decide⟩
  | bool value =>
    cases value
    · exact ⟨_,_,rfl,by decide,by decide,by decide⟩
    · exact ⟨_,_,rfl,by decide,by decide,by decide⟩
  | string text => exact opens_quote text
  | array all => exact ⟨'[',_,by simp [render]; rfl,by decide,by decide,by decide⟩
  | object all => exact ⟨'\x7b',_,by simp [render]; rfl,by decide,by decide,by decide⟩

def ReadBack (value : Json) : Prop :=
  ∀ fuel rest, 2 * (render value).toList.length ≤ fuel →
    readValue fuel ((render value).toList ++ rest) = some (value,rest)

theorem readItems_last {item : Json} {fuel : Nat} {text rest : List Char}
    (read : readValue fuel text = some (item,']'::rest)) :
    readItems (fuel + 1) text = some ([item],rest) := by
  rw [readItems,read]
  rfl

theorem readItems_next {item : Json} {items : List Json} {fuel : Nat} {text more rest : List Char}
    (read : readValue fuel text = some (item,','::more))
    (others : readItems fuel more = some (items,rest)) :
    readItems (fuel + 1) text = some (item::items,rest) := by
  have comma : skipSpace (','::more) = ','::more := skipSpace_cons rfl more
  rw [readItems,read]
  simp only [Option.bind_eq_bind,Option.bind_some,comma,others]
  rfl

theorem toList_renderItems (item second : Json) (others : List Json) :
    (renderItems (item::second::others)).toList =
      (render item).toList ++ ','::(renderItems (second::others)).toList := by
  simp [renderItems]

theorem opens_renderItems {items : List Json} (filled : items ≠ [])
    (all : ∀ item ∈ items, Textual item) : Opens (renderItems items).toList := by
  match items with
  | [] => exact absurd rfl filled
  | [item] => exact opens_render (all item (List.mem_singleton_self item))
  | item::second::others =>
    rw [toList_renderItems]
    exact (opens_render (all item List.mem_cons_self)).append _

theorem readItems_render {items : List Json} (filled : items ≠ [])
    (back : ∀ item ∈ items, ReadBack item) (fuel : Nat) (rest : List Char)
    (enough : 2 * (renderItems items).toList.length + 1 ≤ fuel) :
    readItems fuel ((renderItems items).toList ++ ']'::rest) = some (items,rest) := by
  induction items generalizing fuel with
  | nil => exact absurd rfl filled
  | cons item others ih =>
    obtain ⟨first,later⟩ := List.forall_mem_cons.mp back
    obtain ⟨fuel,rfl⟩ := Nat.exists_eq_add_one.mpr (Nat.zero_lt_of_lt enough)
    cases others with
    | nil =>
      rw [renderItems] at enough ⊢
      exact readItems_last (first fuel _ (by omega))
    | cons second others =>
      rw [toList_renderItems,List.length_append,List.length_cons] at enough
      rw [toList_renderItems,List.append_assoc,List.cons_append]
      exact readItems_next (first fuel _ (by omega)) (ih (List.cons_ne_nil _ _) later fuel (by omega))

theorem readMembers_last {name : String} {value : Json} {fuel : Nat} {text rest : List Char}
    (read : readValue fuel text = some (value,'\x7d'::rest)) :
    readMembers (fuel + 1) ((quote name).toList ++ ':'::text) = some ([(some name,value)],rest) := by
  obtain ⟨chars,opened,said⟩ := exists_quote name (':'::text)
  have colon : skipSpace (':'::text) = ':'::text := skipSpace_cons rfl text
  have brace : skipSpace ('\x7d'::rest) = '\x7d'::rest := skipSpace_cons rfl rest
  rw [opened,readMembers,skipSpace_cons rfl]
  simp only [said,colon,read,brace,Option.bind_eq_bind,Option.bind_some,Option.map_some,
    String.ofList_toList]
  rfl

theorem readMembers_next {name : String} {value : Json} {members : List (Option String × Json)}
    {fuel : Nat} {text more rest : List Char}
    (read : readValue fuel text = some (value,','::more))
    (others : readMembers fuel more = some (members,rest)) :
    readMembers (fuel + 1) ((quote name).toList ++ ':'::text) =
      some ((some name,value)::members,rest) := by
  obtain ⟨chars,opened,said⟩ := exists_quote name (':'::text)
  have colon : skipSpace (':'::text) = ':'::text := skipSpace_cons rfl text
  have comma : skipSpace (','::more) = ','::more := skipSpace_cons rfl more
  rw [opened,readMembers,skipSpace_cons rfl]
  simp only [said,colon,read,comma,others,Option.bind_eq_bind,Option.bind_some,Option.map_some,
    String.ofList_toList]
  rfl

theorem toList_renderMember (name : String) (value : Json) : (renderMembers [(name,value)]).toList =
    (quote name).toList ++ ':'::(render value).toList := by
  simp [renderMembers]

theorem toList_renderMembers (name : String) (value : Json) (second : String × Json)
    (others : List (String × Json)) : (renderMembers ((name,value)::second::others)).toList =
      (quote name).toList ++ ':'::((render value).toList ++ ','::(renderMembers (second::others)).toList) := by
  simp [renderMembers]

theorem opens_renderMembers {members : List (String × Json)} (filled : members ≠ []) :
    Opens (renderMembers members).toList := by
  match members with
  | [] => exact absurd rfl filled
  | [(name,value)] =>
    rw [toList_renderMember]
    exact (opens_quote name).append _
  | (name,value)::second::others =>
    rw [toList_renderMembers]
    exact (opens_quote name).append _

theorem readMembers_render {members : List (String × Json)} (filled : members ≠ [])
    (back : ∀ member ∈ members, ReadBack member.2) (fuel : Nat) (rest : List Char)
    (enough : 2 * (renderMembers members).toList.length + 1 ≤ fuel) :
    readMembers fuel ((renderMembers members).toList ++ '\x7d'::rest) =
      some (members.map fun member => (some member.1,member.2),rest) := by
  induction members generalizing fuel with
  | nil => exact absurd rfl filled
  | cons member others ih =>
    obtain ⟨name,value⟩ := member
    obtain ⟨first,later⟩ : ReadBack value ∧ ∀ member ∈ others, ReadBack member.2 :=
      List.forall_mem_cons.mp back
    obtain ⟨fuel,rfl⟩ := Nat.exists_eq_add_one.mpr (Nat.zero_lt_of_lt enough)
    cases others with
    | nil =>
      rw [toList_renderMember,List.length_append,List.length_cons] at enough
      rw [toList_renderMember,List.append_assoc,List.cons_append]
      exact readMembers_last (first fuel _ (by omega))
    | cons second others =>
      rw [toList_renderMembers] at enough ⊢
      simp only [List.length_append,List.length_cons] at enough
      rw [List.append_assoc,List.cons_append,List.append_assoc,List.cons_append]
      exact readMembers_next (first fuel _ (by omega)) (ih (List.cons_ne_nil _ _) later fuel (by omega))

theorem objectOf_members (members : List (String × Json)) :
    objectOf (members.map fun member => (some member.1,member.2)) = object members := by
  have named : (members.map fun member => (some member.1,member.2)).mapM
      (fun member : Option String × Json => member.1.map (·,member.2)) = some members := by
    induction members with
    | nil => rfl
    | cons member rest ih => simp [ih]
  rw [objectOf,named]

theorem readBack_string (text : String) : ReadBack (string text) := by
  intro fuel rest enough
  obtain ⟨chars,opened,said⟩ := exists_quote text rest
  cases fuel with
  | zero => simp [render,toList_quote] at enough
  | succ fuel =>
    rw [render,opened,readValue,skipSpace_cons rfl]
    simp only [said,Option.bind_eq_bind,Option.bind_some,String.ofList_toList]
    rfl

theorem readBack_array {items : List Json} (all : ∀ item ∈ items, Textual item)
    (back : ∀ item ∈ items, ReadBack item) : ReadBack (array items) := by
  intro fuel rest enough
  have parts : (render (array items)).toList ++ rest =
      '['::((renderItems items).toList ++ ']'::rest) := by simp [render]
  have size : (render (array items)).toList.length = (renderItems items).toList.length + 2 := by
    simp [render]
  obtain ⟨fuel,rfl⟩ : ∃ less, fuel = less + 1 := ⟨fuel - 1,by omega⟩
  rw [parts,readValue,skipSpace_cons rfl]
  by_cases empty : items = []
  · subst empty
    rfl
  · obtain ⟨c,more,same,dark,bracket,_⟩ := (opens_renderItems empty all).append (']'::rest)
    have read := readItems_render empty back fuel rest (by omega)
    rw [same] at read ⊢
    simp only [skipSpace_cons dark]
    split
    next _ closed => exact absurd (List.cons.inj closed).1 bracket
    next =>
      rw [read]
      rfl

theorem readBack_object {members : List (String × Json)}
    (back : ∀ member ∈ members, ReadBack member.2) : ReadBack (object members) := by
  intro fuel rest enough
  have parts : (render (object members)).toList ++ rest =
      '\x7b'::((renderMembers members).toList ++ '\x7d'::rest) := by simp [render]
  have size : (render (object members)).toList.length =
      (renderMembers members).toList.length + 2 := by simp [render]
  obtain ⟨fuel,rfl⟩ : ∃ less, fuel = less + 1 := ⟨fuel - 1,by omega⟩
  rw [parts,readValue,skipSpace_cons rfl]
  by_cases empty : members = []
  · subst empty
    rfl
  · obtain ⟨c,more,same,dark,_,brace⟩ := (opens_renderMembers empty).append ('\x7d'::rest)
    have read := readMembers_render empty back fuel rest (by omega)
    rw [same] at read ⊢
    simp only [skipSpace_cons dark]
    split
    next _ closed => exact absurd (List.cons.inj closed).1 brace
    next =>
      rw [read,← objectOf_members members]
      rfl

theorem readBack_of_textual {value : Json} (textual : Textual value) : ReadBack value := by
  induction textual with
  | null =>
    intro fuel rest enough
    cases fuel with
    | zero => simp [render] at enough
    | succ fuel => rfl
  | bool value =>
    intro fuel rest enough
    cases fuel with
    | zero => cases value <;> simp [render] at enough
    | succ fuel => cases value <;> rfl
  | string text => exact readBack_string text
  | array all ih => exact readBack_array all ih
  | object all ih => exact readBack_object ih

theorem parse?_render {value : Json} (textual : Textual value) : parse? (render value) = some value := by
  have read := readBack_of_textual textual (2 * (render value).toList.length + 2) [] (by omega)
  rw [List.append_nil] at read
  simp only [parse?,read,Option.bind_eq_bind,Option.bind_some]
  rfl

end InformerGen.Json
