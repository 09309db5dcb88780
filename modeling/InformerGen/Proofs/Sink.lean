import InformerGen.Sink

/-! A sink takes bytes from the front, and a delivery is complete only if all of them were taken. -/
namespace InformerGen.Sink

theorem accepted_of_complete {sink : Sink} {calls : Nat} {bytes : List UInt8}
    (complete : (deliverWithin calls sink bytes).complete = true) :
    (deliverWithin calls sink bytes).accepted = bytes := by
  induction calls generalizing sink bytes with
  | zero =>
    cases bytes with
    | nil => rfl
    | cons byte rest => cases complete
  | succ calls ih =>
    cases bytes with
    | nil => rfl
    | cons byte rest =>
      simp only [deliverWithin] at complete ⊢
      cases taking : sink.take? (byte::rest).length with
      | none =>
        rw [taking] at complete
        cases complete
      | some step =>
        obtain ⟨taken,next⟩ := step
        rw [taking] at complete
        simp only at complete ⊢
        split at complete
        · cases complete
        · next some =>
          rw [if_neg some,ih complete,List.take_append_drop]

theorem deliver_accepted {sink : Sink} {bytes : List UInt8}
    (complete : (sink.deliver bytes).complete = true) : (sink.deliver bytes).accepted = bytes :=
  accepted_of_complete complete

end InformerGen.Sink
