/-! Sets of code points, given as closed ranges. -/
namespace InformerGen.Text

/-- A code point belongs to a table when one of its ranges, ends included, holds it. -/
def covers (table : List (Nat × Nat)) (point : Nat) : Bool :=
  table.any fun range => range.1 ≤ point && point ≤ range.2

theorem covers_iff (table : List (Nat × Nat)) (point : Nat) :
    covers table point = true ↔ ∃ range ∈ table, range.1 ≤ point ∧ point ≤ range.2 := by
  simp [covers]

end InformerGen.Text
