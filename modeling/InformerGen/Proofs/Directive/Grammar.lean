import InformerGen.Proofs.Directive
import InformerGen.Proofs.Directive.VerbList

/-! Which comments can be read, and what is read from them. Comments are well formed by what the lines
with each key say, all of them for a key that takes no value and the last one for a key that does. The
reader goes through the rules one after the other: each step of it either establishes a rule or blames a
line that breaks it. -/
namespace InformerGen

def Verb.place (verb : Verb) : Nat := Verb.all.idxOf verb

theorem Verb.mem_all (verb : Verb) : verb ∈ Verb.all := by
  cases verb <;> decide

namespace TagSet

open Directive

/-- The last directive with the key has a list with the verb. -/
def Listed (lines : List String) (key : String) (verb : Verb) : Prop :=
  ∃ line value verbs, Decides lines line key value ∧ VerbList value verbs ∧ verb ∈ verbs

/-- The directives say that the verb is kept: it is listed to be kept, or does not write while the type
is to be read only. -/
def Kept (lines : List String) (verb : Verb) : Prop :=
  Listed lines onlyVerbsKey verb ∨ Carried defaultMarker lines readOnlyKey ∧ verb ∈ Verb.readOnly

def verbKeys : List String := [skipVerbsKey,onlyVerbsKey]

def OneWord (text : String) : Prop := text ≠ "" ∧ ∀ c ∈ text.toList, Text.isBlank c = false

/-- The rules that comment lines keep. -/
structure WellFormed (lines : List String) : Prop where
  bare : ∀ key ∈ clientKey::legacyKeys, ∀ line ∈ lines, ∀ value,
    Carries defaultMarker line key value → value = ""
  lists : ∀ key ∈ verbKeys, ∀ line value, Decides lines line key value →
    ∃ verbs, VerbList value verbs
  apart : ∀ verb, Listed lines skipVerbsKey verb → ¬Kept lines verb
  resource : ∀ line value, Decides lines line resourceNameKey value → OneWord value

/-- What comment lines say of a type. -/
structure Describes (lines : List String) (tags : TagSet) : Prop where
  generateClient : tags.generateClient = true ↔ Carried defaultMarker lines clientKey
  nonNamespaced : tags.nonNamespaced = true ↔ Carried defaultMarker lines nonNamespacedKey
  noStatus : tags.noStatus = true ↔ Carried defaultMarker lines noStatusKey
  noVerbs : tags.noVerbs = true ↔ Carried defaultMarker lines noVerbsKey
  ascending : tags.skipVerbs.Pairwise fun first second => first.place < second.place
  hasVerb : ∀ verb, tags.hasVerb verb = true ↔ ¬Carried defaultMarker lines noVerbsKey ∧
    (Kept lines verb ∨ ¬Carried defaultMarker lines onlyVerbsKey ∧
      ¬Carried defaultMarker lines readOnlyKey ∧ ¬Listed lines skipVerbsKey verb)
  resourceName : ∀ name, tags.resourceName = some name ↔
    ∃ line, Decides lines line resourceNameKey name

/-- The line breaks a rule, with the fault that this is. -/
inductive Offends (lines : List String) (line : String) : TagFault → Prop
  | valueOnClient {value : String} (member : line ∈ lines)
      (carries : Carries defaultMarker line clientKey value) (given : value ≠ "") :
      Offends lines line .valueOnClient
  | legacyForm {key value : String} (legacy : key ∈ legacyKeys) (member : line ∈ lines)
      (carries : Carries defaultMarker line key value) (given : value ≠ "") :
      Offends lines line (.legacyForm key)
  | noVerbs {key value : String} (listing : key ∈ verbKeys) (decides : Decides lines line key value)
      (blank : Text.allBlank value = true) : Offends lines line (.noVerbs key)
  | unknownVerb {key value item : String} (listing : key ∈ verbKeys)
      (decides : Decides lines line key value) (member : item ∈ Text.pieces ',' value)
      (unknown : ∀ verb : Verb, ¬verb.Spelled item) :
      Offends lines line (.unknownVerb (Text.trim item))
  | verbKeptAndSkipped {value : String} {verbs : List Verb} {verb : Verb}
      (decides : Decides lines line skipVerbsKey value) (list : VerbList value verbs)
      (member : verb ∈ verbs) (kept : Kept lines verb) :
      Offends lines line (.verbKeptAndSkipped verb)
  | resourceNotOneWord {value : String} (decides : Decides lines line resourceNameKey value)
      (words : ¬OneWord value) : Offends lines line .resourceNotOneWord

/-- The error tells the line that breaks a rule, without the blanks around it. -/
def Blames (lines : List String) (error : TagError) : Prop :=
  ∃ line ∈ lines, error.line = Text.trim line ∧ Offends lines line error.fault

variable {lines : List String} {line key value : String} {verb : Verb} {verbs : List Verb}

theorem Offends.not_wellFormed {fault : TagFault} (offends : Offends lines line fault) :
    ¬WellFormed lines := by
  intro formed
  cases offends with
  | valueOnClient member carries given =>
    exact given (formed.bare _ List.mem_cons_self line member _ carries)
  | legacyForm legacy member carries given =>
    exact given (formed.bare _ (List.mem_cons_of_mem _ legacy) line member _ carries)
  | noVerbs listing decides blank =>
    obtain ⟨verbs,list⟩ := formed.lists _ listing line _ decides
    rw [list.not_blank] at blank
    cases blank
  | unknownVerb listing decides member unknown =>
    obtain ⟨verbs,list⟩ := formed.lists _ listing line _ decides
    obtain ⟨verb,spelled⟩ := list.exists_spelled member
    exact unknown verb spelled
  | verbKeptAndSkipped decides list member kept =>
    exact formed.apart _ ⟨line,_,_,decides,list,member⟩ kept
  | resourceNotOneWord decides words => exact words (formed.resource line _ decides)

theorem Blames.not_wellFormed {error : TagError} (blames : Blames lines error) :
    ¬WellFormed lines := by
  obtain ⟨_,_,_,offends⟩ := blames
  exact offends.not_wellFormed

/-- A step of the reader succeeds with a value of which something holds, or it blames a line. -/
def Reads {α : Type} (lines : List String) (step : Except TagError α) (Holds : α → Prop) : Prop :=
  (∃ value, Holds value ∧ step = .ok value) ∨ ∃ error, Blames lines error ∧ step = .error error

namespace Reads

variable {α β : Type} {step : Except TagError α} {Holds : α → Prop}

theorem bind (reads : Reads lines step Holds) {next : α → Except TagError β} {Then : β → Prop}
    (goesOn : ∀ value, Holds value → Reads lines (next value) Then) :
    Reads lines (step >>= next) Then := by
  rcases reads with ⟨value,holds,rfl⟩ | ⟨error,blames,rfl⟩
  · exact goesOn value holds
  · exact .inr ⟨error,blames,rfl⟩

theorem holds {value : α} (reads : Reads lines step Holds) (done : step = .ok value) :
    Holds value := by
  rcases reads with ⟨other,holds,same⟩ | ⟨error,_,failed⟩
  · rw [same] at done
    cases done
    exact holds
  · rw [failed] at done
    cases done

theorem blames {error : TagError} (reads : Reads lines step Holds) (failed : step = .error error) :
    Blames lines error := by
  rcases reads with ⟨value,_,done⟩ | ⟨other,blames,same⟩
  · rw [done] at failed
    cases failed
  · rw [same] at failed
    cases failed
    exact blames

theorem forM {items : List β} {check : β → Except TagError Unit} {Passed : β → Prop}
    (each : ∀ item ∈ items, Reads lines (check item) fun _ => Passed item) :
    Reads lines (items.forM check) fun _ => ∀ item ∈ items, Passed item := by
  induction items with
  | nil => exact .inl ⟨(),nofun,rfl⟩
  | cons item rest ih =>
    rw [List.forall_mem_cons] at each
    refine each.1.bind fun _ first => ?_
    rcases ih each.2 with ⟨_,others,done⟩ | failed
    · exact .inl ⟨(),List.forall_mem_cons.mpr ⟨first,others⟩,done⟩
    · exact .inr failed

end Reads

theorem mentions_iff (lines : List String) (key : String) :
    mentions (ofLines defaultMarker lines) key = true ↔ Carried defaultMarker lines key := by
  rw [mentions,List.any_eq_true]
  constructor
  · rintro ⟨directive,member,same⟩
    obtain ⟨line,listed,_,carries⟩ := mem_ofLines.mp member
    rw [beq_iff_eq.mp same] at carries
    exact ⟨line,listed,directive.value,carries⟩
  · rintro ⟨line,listed,value,carries⟩
    exact ⟨⟨key,value,Text.trim line⟩,mem_ofLines.mpr ⟨line,listed,rfl,carries⟩,beq_iff_eq.mpr rfl⟩

theorem reads_rejectValue {fault : TagFault} (offends : ∀ line ∈ lines, ∀ value,
      Carries defaultMarker line key value → value ≠ "" → Offends lines line fault) :
    Reads lines (rejectValue (ofLines defaultMarker lines) key fault) fun _ =>
      ∀ line ∈ lines, ∀ value, Carries defaultMarker line key value → value = "" := by
  unfold rejectValue
  cases found : (withKey key (ofLines defaultMarker lines)).find? (·.value != "") with
  | none =>
    refine .inl ⟨(),fun line member value carries => ?_,rfl⟩
    have listed : ⟨key,value,Text.trim line⟩ ∈ withKey key (ofLines defaultMarker lines) :=
      List.mem_filter.mpr ⟨mem_ofLines.mpr ⟨line,member,rfl,carries⟩,beq_iff_eq.mpr rfl⟩
    simpa using List.find?_eq_none.mp found _ listed
  | some directive =>
    obtain ⟨member,same⟩ := List.mem_filter.mp (List.mem_of_find?_eq_some found)
    obtain ⟨line,listed,trimmed,carries⟩ := mem_ofLines.mp member
    rw [beq_iff_eq.mp same] at carries
    have given : directive.value ≠ "" := by simpa using List.find?_some found
    exact .inr ⟨_,⟨line,listed,trimmed,offends line listed _ carries given⟩,rfl⟩

theorem reads_legacy (lines : List String) :
    Reads lines (legacyKeys.forM fun key =>
      rejectValue (ofLines defaultMarker lines) key (.legacyForm key)) fun _ =>
      ∀ key ∈ legacyKeys, ∀ line ∈ lines, ∀ value,
        Carries defaultMarker line key value → value = "" :=
  .forM fun _ legacy => reads_rejectValue fun _ member _ => .legacyForm legacy member

/-- The list of the last directive with the key, or nothing without such a directive. -/
inductive Gives (lines : List String) (key : String) : List Verb → Prop
  | nothing (absent : ¬Carried defaultMarker lines key) : Gives lines key []
  | list {line value : String} {verbs : List Verb} (decides : Decides lines line key value)
      (list : VerbList value verbs) : Gives lines key verbs

namespace Gives

theorem mem_iff (gives : Gives lines key verbs) : verb ∈ verbs ↔ Listed lines key verb := by
  cases gives with
  | nothing absent =>
    refine iff_of_false List.not_mem_nil ?_
    rintro ⟨line,value,verbs,decides,_⟩
    exact absent decides.carried
  | list decides list =>
    constructor
    · intro member
      exact ⟨_,_,_,decides,list,member⟩
    · rintro ⟨line,value,others,also,otherList,member⟩
      rw [decides.value_unique also] at list
      rwa [list.unique otherList]

theorem eq_nil_iff (gives : Gives lines key verbs) : verbs = [] ↔ ¬Carried defaultMarker lines key := by
  cases gives with
  | nothing absent => exact iff_of_true rfl absent
  | list decides list => exact iff_of_false list.ne_nil (not_not_intro decides.carried)

theorem exists_verbList (gives : Gives lines key verbs) (decides : Decides lines line key value) :
    ∃ verbs, VerbList value verbs := by
  cases gives with
  | nothing absent => exact absurd decides.carried absent
  | list also list => exact ⟨verbs,decides.value_unique also ▸ list⟩

end Gives

theorem reads_lastVerbs (listing : key ∈ verbKeys) :
    Reads lines (lastVerbs (ofLines defaultMarker lines) key) (Gives lines key) := by
  unfold lastVerbs
  cases last : last? key (ofLines defaultMarker lines) with
  | none => exact .inl ⟨[],.nothing (last?_eq_none_iff.mp last),rfl⟩
  | some directive =>
    obtain ⟨rfl,line,trimmed,decides⟩ := last?_eq_some_iff.mp last
    rcases readVerbs_ok_or_error directive with
      ⟨verbs,list,read⟩ | ⟨blank,read⟩ | ⟨item,member,unknown,read⟩
    · exact .inl ⟨verbs,.list decides list,read⟩
    · exact .inr ⟨_,⟨line,decides.mem,trimmed,.noVerbs listing decides blank⟩,read⟩
    · exact .inr ⟨_,⟨line,decides.mem,trimmed,.unknownVerb listing decides member unknown⟩,read⟩

def keptVerbs (lines : List String) (only : List Verb) : List Verb :=
  (if mentions (ofLines defaultMarker lines) readOnlyKey then Verb.readOnly else []) ++ only

theorem mem_keptVerbs (keeps : Gives lines onlyVerbsKey verbs) :
    verb ∈ keptVerbs lines verbs ↔ Kept lines verb := by
  rw [keptVerbs,List.mem_append,keeps.mem_iff,Kept,← mentions_iff lines readOnlyKey,or_comm]
  split
  next readOnly => simp [readOnly]
  next plain => simp [plain]

theorem keptVerbs_eq_nil_iff (keeps : Gives lines onlyVerbsKey verbs) :
    keptVerbs lines verbs = [] ↔
      ¬Carried defaultMarker lines onlyVerbsKey ∧ ¬Carried defaultMarker lines readOnlyKey := by
  rw [keptVerbs,List.append_eq_nil_iff,keeps.eq_nil_iff,and_comm,← mentions_iff lines readOnlyKey]
  refine and_congr_right fun _ => ?_
  split
  next readOnly => exact iff_of_false (List.cons_ne_nil _ _) (not_not_intro readOnly)
  next plain => exact iff_of_true rfl plain

theorem reads_rejectKept {skip only : List Verb} (skips : Gives lines skipVerbsKey skip)
    (keeps : Gives lines onlyVerbsKey only) :
    Reads lines (rejectKept (ofLines defaultMarker lines) skip (keptVerbs lines only)) fun _ =>
      ∀ verb, Listed lines skipVerbsKey verb → ¬Kept lines verb := by
  unfold rejectKept
  cases found : skip.find? fun verb => (keptVerbs lines only).contains verb with
  | none =>
    refine .inl ⟨(),fun verb skipped kept => ?_,?_⟩
    · rw [← skips.mem_iff] at skipped
      rw [← mem_keptVerbs keeps] at kept
      exact List.find?_eq_none.mp found verb skipped (List.contains_iff_mem.mpr kept)
    · cases last? skipVerbsKey (ofLines defaultMarker lines) <;> rfl
  | some verb =>
    have member := List.mem_of_find?_eq_some found
    have kept := (mem_keptVerbs keeps).mp (List.contains_iff_mem.mp (List.find?_some found :))
    cases skips with
    | nothing => cases member
    | list decides list =>
      rw [decides.last?_eq]
      exact .inr ⟨_,⟨_,decides.mem,rfl,.verbKeptAndSkipped decides list member kept⟩,rfl⟩

theorem reads_readResourceName (lines : List String) :
    Reads lines (readResourceName (ofLines defaultMarker lines)) fun resource =>
      (∀ name, resource = some name ↔ ∃ line, Decides lines line resourceNameKey name) ∧
      ∀ name, resource = some name → OneWord name := by
  unfold readResourceName
  cases last : last? resourceNameKey (ofLines defaultMarker lines) with
  | none =>
    refine .inl ⟨none,⟨fun name => iff_of_false nofun ?_,nofun⟩,rfl⟩
    rintro ⟨line,decides⟩
    exact last?_eq_none_iff.mp last decides.carried
  | some directive =>
    obtain ⟨_,line,trimmed,decides⟩ := last?_eq_some_iff.mp last
    have oneWord : OneWord directive.value ↔
        ¬(directive.value == "" || directive.value.toList.any Text.isBlank) = true := by
      simp [OneWord]
    dsimp only
    split
    next words =>
      have broken : ¬OneWord directive.value := fun word => oneWord.mp word words
      exact .inr ⟨_,⟨line,decides.mem,trimmed,.resourceNotOneWord decides broken⟩,rfl⟩
    next word =>
      refine .inl ⟨some directive.value,⟨fun name => ⟨?_,?_⟩,?_⟩,rfl⟩
      · rintro ⟨⟩
        exact ⟨line,decides⟩
      · rintro ⟨other,also⟩
        rw [decides.value_unique also]
      · rintro _ ⟨⟩
        exact oneWord.mpr word

theorem mem_canonical : verb ∈ Verb.canonical verbs ↔ verb ∈ verbs := by
  rw [Verb.canonical,List.mem_filter,List.contains_iff_mem]
  exact and_iff_right verb.mem_all

theorem ascending_filter (chosen : Verb → Bool) :
    (Verb.all.filter chosen).Pairwise fun first second => first.place < second.place := by
  have all : Verb.all.Pairwise fun first second => first.place < second.place := by decide
  exact all.filter chosen

/-- The verbs that are left out: those of a list where nothing says which ones are kept, and otherwise
all that are not kept. -/
def skippedVerbs (lines : List String) (skip only : List Verb) : List Verb :=
  if (keptVerbs lines only).isEmpty then Verb.canonical skip
  else Verb.all.filter fun verb => !(keptVerbs lines only).contains verb

theorem skippedVerbs_ascending (lines : List String) (skip only : List Verb) :
    (skippedVerbs lines skip only).Pairwise fun first second => first.place < second.place := by
  unfold skippedVerbs
  split <;> exact ascending_filter _

theorem mem_skippedVerbs {skip only : List Verb} (skips : Gives lines skipVerbsKey skip)
    (keeps : Gives lines onlyVerbsKey only) : verb ∈ skippedVerbs lines skip only ↔
    ¬(Kept lines verb ∨ ¬Carried defaultMarker lines onlyVerbsKey ∧
      ¬Carried defaultMarker lines readOnlyKey ∧ ¬Listed lines skipVerbsKey verb) := by
  rw [← mem_keptVerbs keeps,← and_assoc,← keptVerbs_eq_nil_iff keeps,← skips.mem_iff,skippedVerbs]
  split
  next empty =>
    rw [List.isEmpty_iff] at empty
    simp [empty,mem_canonical]
  next filled =>
    rw [List.isEmpty_iff] at filled
    simp [filled,verb.mem_all]

theorem reads_parse (lines : List String) :
    Reads lines (parse lines) fun tags => WellFormed lines ∧ Describes lines tags := by
  refine (reads_rejectValue fun _ member _ => .valueOnClient member).bind fun _ bare => ?_
  refine (reads_legacy lines).bind fun _ legacyBare => ?_
  refine (@reads_lastVerbs lines skipVerbsKey (by decide)).bind fun skip skips => ?_
  refine (@reads_lastVerbs lines onlyVerbsKey (by decide)).bind fun only keeps => ?_
  refine (reads_rejectKept skips keeps).bind fun _ apart => ?_
  refine (reads_readResourceName lines).bind fun resource ⟨named,oneWord⟩ => ?_
  -- By now each rule is known to be kept. What is left is the set that the values make up.
  refine .inl ⟨⟨_,_,_,_,skippedVerbs lines skip only,resource⟩,⟨?_,?_⟩,rfl⟩
  · refine ⟨List.forall_mem_cons.mpr ⟨bare,legacyBare⟩,?_,apart,fun line value decides => ?_⟩
    · intro key listing line value decides
      rw [verbKeys,List.mem_cons,List.mem_singleton] at listing
      rcases listing with rfl | rfl
      · exact skips.exists_verbList decides
      · exact keeps.exists_verbList decides
    · exact oneWord value ((named value).mpr ⟨line,decides⟩)
  · refine ⟨mentions_iff _ _,mentions_iff _ _,mentions_iff _ _,mentions_iff _ _,
      skippedVerbs_ascending lines skip only,fun verb => ?_,named⟩
    rw [hasVerb,Bool.and_eq_true,Bool.not_eq_true',← Bool.not_eq_true,mentions_iff,
      Bool.not_eq_true',← Bool.not_eq_true,List.contains_iff_mem,mem_skippedVerbs skips keeps,
      Classical.not_not]

/-- Comments are read just if they are well formed, and then the set says what they do. When they are
refused, the error tells a line that breaks a rule. -/
theorem parse_exact (lines : List String) :
    ((∃ tags, parse lines = .ok tags) ↔ WellFormed lines) ∧
    (∀ tags, parse lines = .ok tags → Describes lines tags) ∧
    ∀ error, parse lines = .error error → Blames lines error := by
  have reads := reads_parse lines
  refine ⟨⟨?_,fun formed => ?_⟩,fun tags parsed => (reads.holds parsed).2,
    fun error refused => reads.blames refused⟩
  · rintro ⟨tags,parsed⟩
    exact (reads.holds parsed).1
  · rcases reads with ⟨tags,_,parsed⟩ | ⟨error,blames,_⟩
    · exact ⟨tags,parsed⟩
    · exact absurd formed blames.not_wellFormed

/-- Comments that keep the verbs of two directives, and comments that want a verb both ways. -/
theorem kept_verbs_exact :
    let lines := ["+genclient","+genclient:readonly"," +genclient:onlyVerbs= create , get",
      "+genclient:skipVerbs=delete","The type is one."]
    let clash := ["+genclient:readonly","  +genclient:skipVerbs=patch,watch"]
    WellFormed lines ∧ ¬Carried defaultMarker lines noVerbsKey ∧ ¬WellFormed clash ∧
      Blames clash ⟨"+genclient:skipVerbs=patch,watch",.verbKeptAndSkipped .watch⟩ := by
  intro lines clash
  have results : parse lines = .ok ⟨true,false,false,false,[.update,.updateStatus,.delete,
        .deleteCollection,.patch],none⟩ ∧
      parse clash = .error ⟨"+genclient:skipVerbs=patch,watch",.verbKeptAndSkipped .watch⟩ := by
    decide +kernel
  obtain ⟨read,refused⟩ := results
  obtain ⟨formed,describes,_⟩ := parse_exact lines
  obtain ⟨_,_,blames⟩ := parse_exact clash
  have blamed := blames _ refused
  have creates := ((describes _ read).hasVerb .create).mp (by decide)
  exact ⟨formed.mp ⟨_,read⟩,creates.1,blamed.not_wellFormed,blamed⟩

end TagSet

end InformerGen
