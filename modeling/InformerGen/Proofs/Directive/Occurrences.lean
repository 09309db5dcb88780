import InformerGen.Proofs.Directive.Grammar

/-! The reader asks for nothing but the directives with some keys, in their order key by key. Whatever
else stands on the lines, how the keys come after one another and which blanks surround a line makes no
difference, neither to what is read nor to the error. -/
namespace InformerGen

namespace Directive

/-- The trimmed line is a directive with the key, which has no equals sign. -/
def bears (key line : String) : Bool :=
  line == defaultMarker ++ key || (defaultMarker ++ key ++ "=").toList.isPrefixOf line.toList

def occurrences (key : String) (lines : List String) : List String :=
  (lines.map Text.trim).filter (bears key)

variable {key line : String} {lines first second : List String}

theorem bears_iff (undivided : '=' ∉ key.toList) : bears key (Text.trim line) = true ↔
    ∃ value, Carries defaultMarker line key value := by
  rw [bears,Bool.or_eq_true,beq_iff_eq,List.isPrefixOf_iff_prefix]
  constructor
  · rintro (bare | ⟨value,parts⟩)
    · exact ⟨"",undivided,.inl ⟨bare,rfl⟩⟩
    · exact ⟨String.ofList value,undivided,.inr (String.toList_inj.mp (by simp [← parts]))⟩
  · rintro ⟨value,_,⟨bare,_⟩ | divided⟩
    · exact .inl bare
    · exact .inr ⟨value.toList,by simp [divided]⟩

theorem ofLine?_trim (marker line : String) : ofLine? marker (Text.trim line) = ofLine? marker line := by
  rw [ofLine?,ofLine?,Text.trim_trim]

theorem withKey_ofLines (undivided : '=' ∉ key.toList) (lines : List String) :
    withKey key (ofLines defaultMarker lines) =
      (occurrences key lines).filterMap (ofLine? defaultMarker) := by
  rw [withKey,ofLines,List.filter_filterMap,occurrences,List.filterMap_filter,List.filterMap_map]
  refine List.filterMap_congr fun line _ => ?_
  rw [Function.comp_apply,ofLine?_trim]
  by_cases found : bears key (Text.trim line) = true
  · obtain ⟨value,carries⟩ := (bears_iff undivided).mp found
    rw [if_pos found,carries.ofLine?_eq]
    simp
  · rw [if_neg found,filter_ofLine?_eq_none_iff]
    intro value carries
    exact found ((bears_iff undivided).mpr ⟨value,carries⟩)

theorem occurrences_append (key : String) (first second : List String) :
    occurrences key (first ++ second) = occurrences key first ++ occurrences key second := by
  rw [occurrences,List.map_append,List.filter_append,occurrences,occurrences]

theorem occurrences_cons (key line : String) (lines : List String) :
    occurrences key (line::lines) =
      if bears key (Text.trim line) then Text.trim line::occurrences key lines
      else occurrences key lines := by
  rw [occurrences,List.map_cons,List.filter_cons,occurrences]

end Directive

namespace TagSet

open Directive

def recognisedKeys : List String :=
  [clientKey,nonNamespacedKey,noVerbsKey,noStatusKey,readOnlyKey,skipVerbsKey,onlyVerbsKey,
    resourceNameKey] ++ legacyKeys

variable {first second : List String}

theorem undivided_of_recognised : ∀ key ∈ recognisedKeys, '=' ∉ key.toList := by decide

theorem mentions_eq_not_isEmpty (directives : List Directive) (key : String) :
    mentions directives key = !(withKey key directives).isEmpty := by
  rw [mentions,withKey,Bool.eq_iff_iff]
  simp

theorem forM_congr {ε α : Type} {items : List α} {check other : α → Except ε Unit}
    (same : ∀ item ∈ items, check item = other item) : items.forM check = items.forM other := by
  induction items with
  | nil => rfl
  | cons item rest ih =>
    obtain ⟨head,tail⟩ := List.forall_mem_cons.mp same
    change (check item >>= fun _ => rest.forM check) = (other item >>= fun _ => rest.forM other)
    rw [head,ih tail]

theorem ofDirectives_congr {first second : List Directive}
    (same : ∀ key ∈ recognisedKeys, withKey key first = withKey key second) :
    ofDirectives first = ofDirectives second := by
  have rejected {key : String} (known : key ∈ recognisedKeys) (fault : TagFault) :
      rejectValue first key fault = rejectValue second key fault := by
    rw [rejectValue,rejectValue,same key known]
  have last {key : String} (known : key ∈ recognisedKeys) : last? key first = last? key second := by
    rw [last?,last?,same key known]
  have verbs {key : String} (known : key ∈ recognisedKeys) :
      lastVerbs first key = lastVerbs second key := by
    rw [lastVerbs,lastVerbs,last known]
  have mentioned {key : String} (known : key ∈ recognisedKeys) :
      mentions first key = mentions second key := by
    rw [mentions_eq_not_isEmpty,mentions_eq_not_isEmpty,same key known]
  have legacy : (legacyKeys.forM fun key => rejectValue first key (.legacyForm key)) =
      legacyKeys.forM fun key => rejectValue second key (.legacyForm key) :=
    forM_congr fun key known => rejected (List.mem_append_right _ known) _
  have kept (skip only : List Verb) : rejectKept first skip only = rejectKept second skip only := by
    rw [rejectKept,rejectKept,last (by decide)]
  have resource : readResourceName first = readResourceName second := by
    rw [readResourceName,readResourceName,last (by decide)]
  simp only [ofDirectives,rejected (show clientKey ∈ recognisedKeys by decide),legacy,
    verbs (show skipVerbsKey ∈ recognisedKeys by decide),
    verbs (show onlyVerbsKey ∈ recognisedKeys by decide),kept,resource,
    mentioned (show clientKey ∈ recognisedKeys by decide),
    mentioned (show nonNamespacedKey ∈ recognisedKeys by decide),
    mentioned (show noStatusKey ∈ recognisedKeys by decide),
    mentioned (show noVerbsKey ∈ recognisedKeys by decide),
    mentioned (show readOnlyKey ∈ recognisedKeys by decide)]

theorem parse_congr (same : ∀ key ∈ recognisedKeys, occurrences key first = occurrences key second) :
    parse first = parse second := by
  refine ofDirectives_congr fun key known => ?_
  have undivided := undivided_of_recognised key known
  rw [withKey_ofLines undivided,withKey_ofLines undivided,same key known]

/-- What is read, be it a set or an error, depends on the lines with the keys that the reader asks for,
key by key. Lines without such a key may be put in anywhere, blanks around a line too, and two lines that
are next to each other may change places unless they share a key. -/
theorem parse_by_occurrences :
    (∀ first second : List String,
      (∀ key ∈ recognisedKeys, occurrences key first = occurrences key second) →
      parse first = parse second) ∧
    (∀ (before after : List String) (line : String),
      (∀ key ∈ recognisedKeys, ∀ value, ¬Carries defaultMarker line key value) →
      parse (before ++ line::after) = parse (before ++ after)) ∧
    (∀ (before after : List String) (front line back : String), Text.allBlank front = true →
      Text.allBlank back = true →
      parse (before ++ (front ++ line ++ back)::after) = parse (before ++ line::after)) ∧
    ∀ (before after : List String) (line next : String),
      (∀ key ∈ recognisedKeys, ∀ value other, Carries defaultMarker line key value →
        ¬Carries defaultMarker next key other) →
      parse (before ++ line::next::after) = parse (before ++ next::line::after) := by
  refine ⟨fun first second => parse_congr,fun before after line unknown => ?_,
    fun before after front line back blank alsoBlank => ?_,fun before after line next apart => ?_⟩
  · refine parse_congr fun key known => ?_
    have absent : ¬bears key (Text.trim line) = true := by
      rw [bears_iff (undivided_of_recognised key known)]
      rintro ⟨value,carries⟩
      exact unknown key known value carries
    rw [occurrences_append,occurrences_append,occurrences_cons,if_neg absent]
  · refine parse_congr fun key _ => ?_
    rw [occurrences_append,occurrences_append,occurrences_cons,occurrences_cons,
      Text.trim_padded blank alsoBlank]
  · refine parse_congr fun key known => ?_
    have notBoth : ¬(bears key (Text.trim line) = true ∧ bears key (Text.trim next) = true) := by
      have undivided := undivided_of_recognised key known
      rw [bears_iff undivided,bears_iff undivided]
      rintro ⟨⟨value,carries⟩,other,also⟩
      exact apart key known value other carries also
    -- Whichever key it is, at least one of the two lines is left out.
    by_cases here : bears key (Text.trim line) = true
    · have notThere : ¬bears key (Text.trim next) = true := fun also => notBoth ⟨here,also⟩
      simp only [occurrences_append,occurrences_cons,if_neg notThere]
    · simp only [occurrences_append,occurrences_cons,if_neg here]

/-- Two listings of the same directives, one of them with prose and a directive that is not asked for. -/
theorem listings_read_alike :
    parse ["+genclient","  +genclient:skipVerbs=get ","+genclient:onlyVerbs=get,list"] =
      parse ["+genclient:onlyVerbs=get,list","Genclient is prose.","+genclient:method=x",
        "+genclient:skipVerbs=get","+genclient"] :=
  parse_by_occurrences.1 _ _ (by decide +kernel)

end TagSet

end InformerGen
