import InformerGen.Alias.Candidates
import Mathlib.Data.List.Infix

/-! The candidates of one path are joins of its last segments, so each of two is a suffix of the
other, and none begins with a digit. For paths of letters, numerals and the marks of import paths
they are all spelled like identifiers. -/
namespace InformerGen.Alias

/-- Paths whose segments can stand in identifiers: apart from the marks of import paths they hold
letters and numerals only, and without the marks no segment begins with a numeral that is neither a
letter nor one of the ten digits. -/
structure Spellable (path : String) : Prop where
  characters : ∀ c ∈ path.toList,
    c = '/' ∨ Identifier.isPathPunctuation c = true ∨ Text.isAlphanumeric c = true
  heads : ∀ piece ∈ Text.pieces '/' path, ∀ c ∈ (Identifier.sanitize piece).toList.head?,
    ¬(0x80 ≤ c.toNat ∧ Text.isNumeral c = true ∧ Text.isLetter c = false)

def isSpellable (path : String) : Bool :=
  (path.toList.all fun c => c == '/' || Identifier.isPathPunctuation c || Text.isAlphanumeric c) &&
    (Text.pieces '/' path).all fun piece => (Identifier.sanitize piece).toList.head?.all fun c =>
      !(decide (0x80 ≤ c.toNat) && Text.isNumeral c && !Text.isLetter c)

theorem isSpellable_iff (path : String) : isSpellable path = true ↔ Spellable path := by
  have parts : isSpellable path = true ↔
      (∀ c ∈ path.toList,
        c = '/' ∨ Identifier.isPathPunctuation c = true ∨ Text.isAlphanumeric c = true) ∧
      ∀ piece ∈ Text.pieces '/' path, ∀ c ∈ (Identifier.sanitize piece).toList.head?,
        ¬(0x80 ≤ c.toNat ∧ Text.isNumeral c = true ∧ Text.isLetter c = false) := by
    simp only [isSpellable,Bool.and_eq_true,Bool.or_eq_true,Bool.not_eq_eq_eq_not,Bool.not_true,
      ← Bool.not_eq_true,List.all_eq_true,Option.all_eq_true,Option.mem_def,beq_iff_eq,
      decide_eq_true_eq,or_assoc,and_assoc]
  rw [parts]
  exact ⟨fun ⟨characters,heads⟩ => ⟨characters,heads⟩,
    fun spellable => ⟨spellable.characters,spellable.heads⟩⟩

instance (path : String) : Decidable (Spellable path) := decidable_of_iff _ (isSpellable_iff path)

theorem mem_suffixJoins {join : String} {words : List String} :
    join ∈ suffixJoins words ↔ ∃ tail, tail ≠ [] ∧ tail <:+ words ∧ join = String.join tail := by
  induction words with
  | nil => simp [suffixJoins]
  | cons word rest ih =>
    simp only [suffixJoins,List.mem_append,ih,List.mem_singleton,List.suffix_cons_iff]
    constructor
    · rintro (⟨tail,nonempty,inside,rfl⟩ | rfl)
      · exact ⟨tail,nonempty,.inr inside,rfl⟩
      · exact ⟨word::rest,List.cons_ne_nil _ _,.inl rfl,rfl⟩
    · rintro ⟨tail,nonempty,rfl | inside,rfl⟩
      · exact .inr rfl
      · exact .inl ⟨tail,nonempty,inside,rfl⟩

theorem mem_candidates {path candidate : String} (member : candidate ∈ candidates path) :
    candidates path = [fallback] ∨
      candidate ∈ suffixJoins (segments path) ∧ opensWithDigit candidate = false := by
  unfold candidates at member ⊢
  dsimp only at member ⊢
  split at member
  next empty =>
    left
    simp only [empty,if_true]
  next nonempty =>
    right
    rw [List.mem_eraseDups,List.mem_filter] at member
    simpa using member

theorem candidates_ne_nil (path : String) : candidates path ≠ [] := by
  unfold candidates
  dsimp only
  split
  · exact List.cons_ne_nil _ _
  next nonempty => simpa using nonempty

theorem not_opensWithDigit {path candidate : String} (member : candidate ∈ candidates path) :
    opensWithDigit candidate = false := by
  rcases mem_candidates member with only | ⟨_,undigited⟩
  · rw [only,List.mem_singleton] at member
    rw [member]
    decide
  · exact undigited

theorem mem_segments {path segment : String} (member : segment ∈ segments path) :
    segment ≠ "" ∧ ∃ piece ∈ Text.pieces '/' path, Identifier.sanitize piece = segment := by
  obtain ⟨mapped,nonempty⟩ := List.mem_filter.mp member
  exact ⟨by simpa using nonempty,List.mem_map.mp mapped⟩

theorem toList_join_cons (segment : String) (rest : List String) :
    (String.join (segment::rest)).toList = segment.toList ++ rest.flatMap String.toList := by
  rw [String.toList_join,List.flatMap_cons]

theorem toList_join_suffix {short long : List String} (shorter : short <:+ long) :
    (String.join short).toList <:+ (String.join long).toList := by
  simp only [String.toList_join,List.flatMap_def]
  exact (shorter.map String.toList).flatten

theorem exists_segment_of_mem_candidates {path candidate : String}
    (member : candidate ∈ candidates path) (suggested : candidates path ≠ [fallback]) :
    ∃ segment ∈ segments path, ∃ rest : List String,
      (∀ word ∈ rest, word ∈ segments path) ∧
      candidate.toList = segment.toList ++ rest.flatMap String.toList := by
  obtain ⟨joined,_⟩ := (mem_candidates member).resolve_left suggested
  obtain ⟨tail,nonempty,inside,rfl⟩ := mem_suffixJoins.mp joined
  obtain ⟨segment,rest,rfl⟩ := List.exists_cons_of_ne_nil nonempty
  have members : ∀ word ∈ segment::rest, word ∈ segments path :=
    fun word inTail => inside.subset inTail
  refine ⟨segment,members _ List.mem_cons_self,rest,?_,toList_join_cons segment rest⟩
  exact fun word inRest => members word (List.mem_cons_of_mem _ inRest)

theorem candidate_ne_empty {path candidate : String} (member : candidate ∈ candidates path) :
    candidate.toList ≠ [] := by
  by_cases only : candidates path = [fallback]
  · rw [only,List.mem_singleton] at member
    rw [member]
    decide
  · obtain ⟨segment,known,rest,_,spelling⟩ := exists_segment_of_mem_candidates member only
    rw [spelling]
    apply List.append_ne_nil_of_left_ne_nil
    simpa [String.toList_eq_nil_iff] using (mem_segments known).1

theorem suffix_or_suffix {path first second : String} (left : first ∈ candidates path)
    (right : second ∈ candidates path) :
    first.toList <:+ second.toList ∨ second.toList <:+ first.toList := by
  by_cases only : candidates path = [fallback]
  · rw [only,List.mem_singleton] at left right
    rw [left,right]
    exact .inl List.suffix_rfl
  · obtain ⟨leftJoin,_⟩ := (mem_candidates left).resolve_left only
    obtain ⟨rightJoin,_⟩ := (mem_candidates right).resolve_left only
    obtain ⟨leftTail,_,leftInside,rfl⟩ := mem_suffixJoins.mp leftJoin
    obtain ⟨rightTail,_,rightInside,rfl⟩ := mem_suffixJoins.mp rightJoin
    exact (List.suffix_or_suffix_of_suffix leftInside rightInside).imp toList_join_suffix
      toList_join_suffix

namespace Spellable

variable {path : String}

theorem isAlphanumeric_of_mem_segments (spellable : Spellable path) {segment : String}
    (known : segment ∈ segments path) {c : Char} (inside : c ∈ segment.toList) :
    Text.isAlphanumeric c = true := by
  obtain ⟨_,piece,listed,rfl⟩ := mem_segments known
  rw [Identifier.sanitize,String.toList_ofList,List.mem_filter] at inside
  obtain ⟨inPath,unmarked⟩ := Text.mem_of_mem_pieces listed inside.1
  rcases spellable.characters c inPath with slash | punctuation | alphanumeric
  · exact absurd slash unmarked
  · simp [punctuation] at inside
  · exact alphanumeric

theorem isLetter_or_isDigit_of_head (spellable : Spellable path) {segment : String}
    (known : segment ∈ segments path) {c : Char} {rest : List Char}
    (spelling : segment.toList = c::rest) : Text.isLetter c = true ∨ c.isDigit = true := by
  have inside : c ∈ segment.toList := by simp [spelling]
  have alphanumeric := spellable.isAlphanumeric_of_mem_segments known inside
  obtain ⟨_,piece,listed,rfl⟩ := mem_segments known
  have head := spellable.heads piece listed c (by simp [spelling])
  rw [Text.isAlphanumeric,Bool.or_eq_true] at alphanumeric
  rcases alphanumeric with letter | numeral
  · exact .inl letter
  · by_cases low : c.toNat < 0x80
    · right
      simpa [Text.isNumeral,low] using numeral
    · left
      by_contra other
      exact head ⟨by omega,numeral,by simpa using other⟩

/-- The candidates of a spellable path are spelled like identifiers, though some may be keywords. -/
theorem wellSpelled_of_mem_candidates (spellable : Spellable path) {candidate : String}
    (member : candidate ∈ candidates path) : Identifier.wellSpelled candidate.toList = true := by
  by_cases only : candidates path = [fallback]
  · rw [only,List.mem_singleton] at member
    rw [member]
    decide
  · obtain ⟨segment,known,rest,others,spelling⟩ := exists_segment_of_mem_candidates member only
    have undigited := not_opensWithDigit member
    have nonempty : segment.toList ≠ [] := by
      simpa [String.toList_eq_nil_iff] using (mem_segments known).1
    obtain ⟨c,tail,start⟩ := List.exists_cons_of_ne_nil nonempty
    have continues : ∀ word ∈ segments path, ∀ d ∈ word.toList, Identifier.continues d = true := by
      intro word wordKnown d inside
      simp [Identifier.continues,spellable.isAlphanumeric_of_mem_segments wordKnown inside]
    rw [start,List.cons_append] at spelling
    have letter : Text.isLetter c = true := by
      refine (spellable.isLetter_or_isDigit_of_head known start).resolve_right ?_
      simpa [opensWithDigit,spelling] using undigited
    rw [spelling,Identifier.wellSpelled,Bool.and_eq_true]
    refine ⟨by simp [Identifier.opens,letter],?_⟩
    rw [List.all_append,Bool.and_eq_true,List.all_eq_true,List.all_eq_true]
    refine ⟨fun d inside => continues segment known d (by simp [start,inside]),?_⟩
    intro d inside
    obtain ⟨word,listed,deeper⟩ := List.mem_flatMap.mp inside
    exact continues word (others word listed) d deeper

end Spellable

end InformerGen.Alias
