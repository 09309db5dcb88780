/-! Looking for one text in another, and the bytes that a text takes in UTF-8. -/
namespace InformerGen.Text

def byteLength : List Char → Nat
  | [] => 0
  | c::rest => c.utf8Size + byteLength rest

def cut (needle : List Char) : List Char → Option (List Char × List Char)
  | [] => if needle.isEmpty then some ([],[]) else none
  | c::rest =>
    match needle.isPrefixOf? (c::rest) with
    | some after => some ([],after)
    | none => (cut needle rest).map fun (before,after) => (c::before,after)

/-- The two texts around the first `mark`, or the whole text and nothing. -/
def splitAtFirst (mark : Char) (text : List Char) : Option (List Char × List Char) := cut [mark] text

def pieces (mark : Char) (text : String) : List String :=
  (text.toList.splitOn mark).map String.ofList

def lastPiece (mark : Char) (text : String) : String := (pieces mark text).getLastD ""

theorem isPrefixOf?_eq_some {needle text after : List Char}
    (found : needle.isPrefixOf? text = some after) : text = needle ++ after := by
  induction needle generalizing text with
  | nil => exact Option.some.inj found
  | cons c needle ih =>
    cases text with
    | nil => exact absurd (show none = some after from found) (by simp)
    | cons d text =>
      change (if c == d then needle.isPrefixOf? text else none) = some after at found
      split at found
      · next same => rw [ih found,eq_of_beq same,List.cons_append]
      · simp at found

theorem cut_eq_some {needle text before after : List Char}
    (found : cut needle text = some (before,after)) : text = before ++ needle ++ after := by
  induction text generalizing before with
  | nil =>
    simp only [cut] at found
    split at found
    · next empty => simp_all
    · simp at found
  | cons c rest ih =>
    simp only [cut] at found
    split at found
    · next tail here =>
      obtain ⟨rfl,rfl⟩ := Prod.mk.inj (Option.some.inj found)
      simpa using isPrefixOf?_eq_some here
    · obtain ⟨⟨inner,tail⟩,later,same⟩ := Option.map_eq_some_iff.1 found
      obtain ⟨rfl,rfl⟩ := Prod.mk.inj same
      rw [ih later]
      simp

private theorem mem_of_mem_splitOn {mark : Char} {text piece : List Char}
    (member : piece ∈ text.splitOn mark) {c : Char} (inside : c ∈ piece) : c ∈ text ∧ c ≠ mark := by
  induction text generalizing piece with
  | nil =>
    rw [List.splitOn_nil,List.mem_singleton] at member
    simp [member] at inside
  | cons d rest ih =>
    rw [List.splitOn_cons_eq_if_modifyHead] at member
    split at member
    · rcases List.mem_cons.1 member with rfl | later
      · simp at inside
      · exact (ih later inside).imp_left (List.mem_cons_of_mem d)
    · next other =>
      cases pieces : rest.splitOn mark with
      | nil => exact absurd pieces (List.splitOn_ne_nil mark rest)
      | cons first others =>
        rw [pieces] at member ih
        rcases List.mem_cons.1 member with rfl | later
        · rcases List.mem_cons.1 inside with rfl | deeper
          · exact ⟨List.mem_cons_self,fun same => other (beq_iff_eq.2 same)⟩
          · exact (ih List.mem_cons_self deeper).imp_left (List.mem_cons_of_mem d)
        · exact (ih (List.mem_cons_of_mem _ later) inside).imp_left (List.mem_cons_of_mem d)

theorem mem_of_mem_pieces {mark : Char} {text piece : String} (member : piece ∈ pieces mark text)
    {c : Char} (inside : c ∈ piece.toList) : c ∈ text.toList ∧ c ≠ mark := by
  obtain ⟨chars,listed,rfl⟩ := List.mem_map.1 member
  rw [String.toList_ofList] at inside
  exact mem_of_mem_splitOn listed inside

end InformerGen.Text
