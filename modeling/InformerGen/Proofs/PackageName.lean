import InformerGen.Manifest.Settings
import InformerGen.Proofs.Text.Case
import InformerGen.SourceFile
import Mathlib.Data.List.Basic

/-! The names of generated packages. A name is made of the name of a type without its underscores, in
lower case, and a keyword is lengthened; making a name of a name changes nothing. It is a legal name
unless what is left of the type's name begins with a numeral, or is nothing, or holds the one letter
whose lower case is not made of letters. -/
namespace InformerGen

namespace Text

theorem lastPiece_append {mark : Char} {piece : String} (unmarked : mark ∉ piece.toList)
    (text : String) : lastPiece mark (text ++ String.singleton mark ++ piece) = piece := by
  have split : (text ++ String.singleton mark ++ piece).toList.splitOn mark =
      text.toList.splitOn mark ++ [piece.toList] := by
    rw [← List.splitOn_eq_singleton unmarked]
    simp [List.splitOn,List.splitOnP_append_cons]
  rw [lastPiece,pieces,split,List.map_append,List.map_singleton,String.ofList_toList,
    List.getLastD_concat]

end Text

namespace Identifier

theorem continues_of_isLetter {c : Char} (letter : Text.isLetter c = true) :
    continues c = true := by
  simp [continues,Text.isAlphanumeric,letter]

/-- The marks that import paths are made with. -/
def isPathMark (c : Char) : Bool := c == '/' || isPathPunctuation c

theorem isLetter_of_isPathMark {c : Char} (mark : isPathMark c = true) :
    Text.isLetter c = false := by
  simp only [isPathMark,isPathPunctuation,Bool.or_eq_true,beq_iff_eq] at mark
  rcases mark with rfl | ((rfl | rfl) | rfl) | rfl <;> decide

theorem toList_sanitize (segment : String) :
    (sanitize segment).toList = segment.toList.filter fun c => !isPathPunctuation c := by
  rw [sanitize,String.toList_ofList]

theorem sanitize_of_unmarked {segment : String}
    (unmarked : ∀ c ∈ segment.toList, isPathMark c = false) : sanitize segment = segment := by
  have all : segment.toList.filter (fun c => !isPathPunctuation c) = segment.toList := by
    rw [List.filter_eq_self]
    intro c member
    have plain := unmarked c member
    rw [isPathMark,Bool.or_eq_false_iff] at plain
    rw [plain.2]
    rfl
  rw [sanitize,all,String.ofList_toList]

/-- The name of a package before it is told from the keywords. -/
def lowered (segment : String) : String := Text.lowercase (sanitize segment)

theorem packageName_eq (segment : String) : packageName segment =
    if isKeyword (lowered segment) then lowered segment ++ "pkg" else lowered segment := rfl

theorem unmarked_lowered {segment : String} (whole : '/' ∉ segment.toList) :
    ∀ c ∈ (lowered segment).toList, isPathMark c = false := by
  intro c member
  rw [lowered,Text.lowercase,String.toList_ofList] at member
  rcases Text.letter_or_kept_lowercaseAfter _ _ c member with letter | rfl | kept
  · by_contra mark
    rw [Bool.not_eq_false] at mark
    rw [isLetter_of_isPathMark mark] at letter
    cases letter
  · decide
  · rw [toList_sanitize,List.mem_filter] at kept
    have other : c ≠ '/' := by
      rintro rfl
      exact whole kept.1
    rw [isPathMark,beq_eq_false_iff_ne.mpr other,Bool.false_or]
    simpa using kept.2

theorem lowered_lowered {segment : String} (whole : '/' ∉ segment.toList) :
    lowered (lowered segment) = lowered segment := by
  have same := sanitize_of_unmarked (unmarked_lowered whole)
  rw [lowered,same]
  exact Text.lowercase_lowercase _

theorem spelled_of_isLower {c : Char} (small : c.isLower = true) :
    Text.isLetter c = true ∧ isPathMark c = false ∧ Text.lowerChar c = [c] := by
  have low := Text.low_of_isLower small
  revert small
  exact Text.of_low c low (by decide)

section

variable {text : List Char}

theorem wellSpelled_of_small (small : ∀ c ∈ text, c.isLower = true) (nonempty : text ≠ []) :
    wellSpelled text = true := by
  obtain ⟨c,rest,rfl⟩ := List.exists_cons_of_ne_nil nonempty
  obtain ⟨first,others⟩ := List.forall_mem_cons.mp small
  rw [wellSpelled,Bool.and_eq_true,List.all_eq_true]
  refine ⟨?_,fun d member => continues_of_isLetter (spelled_of_isLower (others d member)).1⟩
  rw [opens,(spelled_of_isLower first).1,Bool.true_or]

theorem lowered_of_small (small : ∀ c ∈ text, c.isLower = true) :
    lowered (String.ofList text) = String.ofList text := by
  have unmarked : ∀ c ∈ (String.ofList text).toList, isPathMark c = false := by
    intro c member
    rw [String.toList_ofList] at member
    exact (spelled_of_isLower (small c member)).2.1
  rw [lowered,sanitize_of_unmarked unmarked,Text.lowercase,String.toList_ofList,
    Text.lowercaseAfter_of_settled fun c member => (spelled_of_isLower (small c member)).2.2]

end

theorem keywords_small : ∀ keyword ∈ keywords, keyword.toList ≠ [] ∧
    keyword.toList.all Char.isLower = true ∧
      "pkg".toList.isSuffixOf keyword.toList = false := by
  decide

theorem isKeyword_lengthened (word : String) : isKeyword (word ++ "pkg") = false := by
  by_contra keyword
  rw [Bool.not_eq_false] at keyword
  obtain ⟨_,_,other⟩ := keywords_small _ (List.contains_iff_mem.mp keyword)
  have ends : "pkg".toList <:+ (word ++ "pkg").toList := by simp
  rw [List.isSuffixOf_iff_suffix.mpr ends] at other
  cases other

theorem keywords_lengthened : ∀ keyword ∈ keywords, wellSpelled keyword.toList = true ∧
    isIdentifier (keyword ++ "pkg") = true ∧ packageName (keyword ++ "pkg") = keyword ++ "pkg" ∧
      (keyword ++ "pkg").toList.all (fun c => !isPathMark c) = true := by
  intro keyword member
  obtain ⟨nonempty,small,_⟩ := keywords_small keyword member
  have suffix : "pkg".toList.all Char.isLower = true := by decide
  have longer : ∀ c ∈ (keyword ++ "pkg").toList, c.isLower = true := by
    rw [String.toList_append,List.forall_mem_append]
    exact ⟨List.all_eq_true.mp small,List.all_eq_true.mp suffix⟩
  refine ⟨wellSpelled_of_small (List.all_eq_true.mp small) nonempty,?_,?_,?_⟩
  · rw [isIdentifier,isKeyword_lengthened,wellSpelled_of_small longer (by simp)]
    rfl
  · have same := lowered_of_small longer
    rw [String.ofList_toList] at same
    rw [packageName_eq,same,isKeyword_lengthened]
    rfl
  · rw [List.all_eq_true]
    intro c inside
    rw [(spelled_of_isLower (longer c inside)).2.1]
    rfl

theorem mem_keywords_of_isKeyword {name : String} (keyword : isKeyword name = true) :
    name ∈ keywords :=
  List.contains_iff_mem.mp keyword

theorem packageName_packageName {segment : String} (whole : '/' ∉ segment.toList) :
    packageName (packageName segment) = packageName segment := by
  rw [packageName_eq segment]
  split
  next keyword => exact (keywords_lengthened _ (mem_keywords_of_isKeyword keyword)).2.2.1
  next plain => rw [packageName_eq,lowered_lowered whole,if_neg plain]

theorem unmarked_packageName {segment : String} (whole : '/' ∉ segment.toList) :
    ∀ c ∈ (packageName segment).toList, isPathMark c = false := by
  rw [packageName_eq]
  split
  next keyword =>
    intro c member
    obtain ⟨_,_,_,unmarked⟩ := keywords_lengthened _ (mem_keywords_of_isKeyword keyword)
    have plain := List.all_eq_true.mp unmarked c member
    rwa [Bool.not_eq_true'] at plain
  next plain => exact unmarked_lowered whole

theorem isIdentifier_packageName (segment : String) :
    isIdentifier (packageName segment) = wellSpelled (lowered segment).toList := by
  rw [packageName_eq]
  split
  next keyword =>
    obtain ⟨spelled,identifier,_⟩ := keywords_lengthened _ (mem_keywords_of_isKeyword keyword)
    rw [identifier,spelled]
  next plain =>
    rw [isIdentifier,Bool.not_eq_true _ |>.mp plain]
    simp

theorem continues_of_wellSpelled {text : List Char} (spelled : wellSpelled text = true) :
    ∀ c ∈ text, continues c = true := by
  cases text with
  | nil => cases spelled
  | cons c rest =>
    rw [wellSpelled,Bool.and_eq_true,List.all_eq_true] at spelled
    refine List.forall_mem_cons.mpr ⟨?_,spelled.2⟩
    rcases Bool.or_eq_true _ _ |>.mp spelled.1 with letter | underscore
    · exact continues_of_isLetter letter
    · simp [continues,underscore]

theorem not_continues_dot : continues '\u0307' = false := by decide +kernel

theorem all_continues_lowercaseAfter {text : List Char}
    (spelled : ∀ c ∈ text, continues c = true) (before : List Char) :
    (Text.lowercaseAfter before text).all continues = true ↔ 'İ' ∉ text := by
  induction text generalizing before with
  | nil => simp [Text.lowercaseAfter]
  | cons c rest ih =>
    obtain ⟨first,others⟩ := List.forall_mem_cons.mp spelled
    obtain ⟨image,lowers,same⟩ := Text.lowercaseAfter_cons before c rest
    rw [same,List.all_append,Bool.and_eq_true,ih others]
    cases lowers with
    | dotted => exact iff_of_false (by simp [not_continues_dot]) (by simp)
    | @single _ d plain settled kind kept =>
      have continued : continues d = true := by
        cases letter : Text.isLetter c with
        | false => rwa [kept letter]
        | true => exact continues_of_isLetter (kind.trans letter)
      simp [continued,Ne.symm plain]

theorem wellSpelled_lowercaseAfter {text : List Char}
    (spelled : ∀ c ∈ text, continues c = true) (bare : '_' ∉ text) (before : List Char) :
    wellSpelled (Text.lowercaseAfter before text) = true ↔
      text.head?.any Text.isLetter = true ∧ 'İ' ∉ text := by
  cases text with
  | nil => simp [Text.lowercaseAfter,wellSpelled]
  | cons c rest =>
    obtain ⟨first,others⟩ := List.forall_mem_cons.mp spelled
    obtain ⟨image,lowers,same⟩ := Text.lowercaseAfter_cons before c rest
    rw [same]
    cases lowers with
    | dotted =>
      exact iff_of_false (by simp [wellSpelled,not_continues_dot]) (by simp)
    | @single _ d plain settled kind kept =>
      have opened : opens d = Text.isLetter c := by
        cases letter : Text.isLetter c with
        | true => rw [opens,kind,letter,Bool.true_or]
        | false =>
          rw [kept letter,opens,letter,Bool.false_or]
          rw [List.mem_cons,not_or] at bare
          exact beq_eq_false_iff_ne.mpr (Ne.symm bare.1)
      rw [List.singleton_append,wellSpelled,Bool.and_eq_true,opened,
        all_continues_lowercaseAfter others]
      simp [Ne.symm plain]

theorem toList_sanitize_of_continues {name : String}
    (spelled : ∀ c ∈ name.toList, continues c = true) :
    (sanitize name).toList = name.toList.filter (· != '_') := by
  rw [toList_sanitize]
  apply List.filter_congr
  intro c member
  have continued := spelled c member
  by_cases underscore : c = '_'
  · rw [underscore]
    rfl
  · have plain : isPathPunctuation c = false := by
      by_contra mark
      rw [Bool.not_eq_false] at mark
      simp only [isPathPunctuation,Bool.or_eq_true,beq_iff_eq,underscore,or_false] at mark
      rcases mark with (rfl | rfl) | rfl <;> revert continued <;> decide
    rw [plain,bne_iff_ne.mpr underscore]
    rfl

theorem isIdentifier_packageName_iff {name : String} (accepted : isIdentifier name = true) :
    isIdentifier (packageName name) = true ↔
      (name.toList.find? (· != '_')).any Text.isLetter = true ∧ 'İ' ∉ name.toList := by
  rw [isIdentifier,Bool.and_eq_true] at accepted
  have spelled := continues_of_wellSpelled accepted.1
  have chars := toList_sanitize_of_continues spelled
  have rest : ∀ c ∈ (sanitize name).toList, continues c = true := by
    intro c member
    rw [chars] at member
    exact spelled c (List.mem_of_mem_filter member)
  have bare : '_' ∉ (sanitize name).toList := by simp [chars]
  rw [isIdentifier_packageName,lowered,Text.lowercase,String.toList_ofList,
    wellSpelled_lowercaseAfter rest bare,chars,List.head?_filter]
  simp

theorem unmarked_of_isIdentifier {mark : Char} (apart : continues mark = false) {name : String}
    (accepted : isIdentifier name = true) : mark ∉ name.toList := by
  intro member
  rw [isIdentifier,Bool.and_eq_true] at accepted
  have continued := continues_of_wellSpelled accepted.1 _ member
  rw [apart] at continued
  cases continued

theorem notMem_of_isIdentifier {name : String} (accepted : isIdentifier name = true) :
    '/' ∉ name.toList :=
  unmarked_of_isIdentifier (by decide) accepted

end Identifier

theorem lastPiece_outputPackage {name : String} (whole : '/' ∉ name.toList) (base : String) :
    Text.lastPiece '/' (outputPackage base name) = Identifier.packageName name := by
  apply Text.lastPiece_append
  intro member
  have plain := Identifier.unmarked_packageName whole _ member
  revert plain
  decide

theorem packageOfPath_outputPackage {name : String} (whole : '/' ∉ name.toList) (base : String) :
    SourceFile.packageOfPath (outputPackage base name) = Identifier.packageName name := by
  rw [SourceFile.packageOfPath,lastPiece_outputPackage whole base,
    Identifier.packageName_packageName whole]

/-- The package that is generated for a type has a legal name exactly when the name of the type,
without its underscores, begins with a letter and holds no dotted capital I. -/
theorem outputPackage_named_iff {name : String} (accepted : Identifier.isIdentifier name = true)
    (base : String) :
    let package := Text.lastPiece '/' (outputPackage base name)
    SourceFile.packageOfPath (outputPackage base name) = package ∧
      (Identifier.isIdentifier package = true ↔
        (name.toList.find? (· != '_')).any Text.isLetter = true ∧ 'İ' ∉ name.toList) := by
  have whole := Identifier.notMem_of_isIdentifier accepted
  intro package
  rw [packageOfPath_outputPackage whole base]
  refine ⟨(lastPiece_outputPackage whole base).symm,?_⟩
  have same : package = Identifier.packageName name := lastPiece_outputPackage whole base
  rw [same]
  exact Identifier.isIdentifier_packageName_iff accepted

theorem interface_package_named :
    let package := Text.lastPiece '/' (outputPackage "out" "_Interface")
    Identifier.isIdentifier "_Interface" = true ∧
      SourceFile.packageOfPath (outputPackage "out" "_Interface") = package ∧
      Identifier.isIdentifier package = true := by
  intro package
  have accepted : Identifier.isIdentifier "_Interface" = true := by decide +kernel
  obtain ⟨clause,legal⟩ := outputPackage_named_iff accepted "out"
  exact ⟨accepted,clause,legal.mpr (by decide +kernel)⟩

/-- What is left of a name may be nothing, may begin with a numeral, or may come to hold a combining
dot. -/
theorem not_every_package_named :
    (∀ name ∈ ["_","_1","İ"], Identifier.isIdentifier name = true ∧
      Identifier.isIdentifier (Text.lastPiece '/' (outputPackage "out" name)) = false) ∧
    ¬ ∀ base name, Identifier.isIdentifier name = true →
      Identifier.isIdentifier (Text.lastPiece '/' (outputPackage base name)) = true := by
  have failing : ∀ name ∈ ["_","_1","İ"], Identifier.isIdentifier name = true ∧
      Identifier.isIdentifier (Text.lastPiece '/' (outputPackage "out" name)) = false := by
    decide +kernel
  refine ⟨failing,fun always => ?_⟩
  obtain ⟨accepted,illegal⟩ := failing "_" List.mem_cons_self
  rw [always "out" "_" accepted] at illegal
  cases illegal

end InformerGen
