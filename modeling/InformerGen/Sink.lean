/-! Sinks: where text is written to. A sink may take less than it is offered, or fail. -/
namespace InformerGen

inductive Sink where
  | unbounded
  | chunked (size : Nat)
  /-- Takes so many bytes in all, then fails. -/
  | bounded (room : Nat)
deriving DecidableEq, Repr

structure Delivery where
  accepted : List UInt8
  complete : Bool
deriving DecidableEq, Repr

namespace Sink

def take? : Sink → Nat → Option (Nat × Sink)
  | unbounded, offered => some (offered,unbounded)
  | chunked size, offered => some (min size offered,chunked size)
  | bounded room, offered =>
    if room = 0 then none else some (min room offered,bounded (room - min room offered))

/-- Calls the sink until all is taken. A call that takes nothing ends it like one that fails. -/
def deliverWithin : Nat → Sink → List UInt8 → Delivery
  | _, _, [] => ⟨[],true⟩
  | 0, _, _ => ⟨[],false⟩
  | calls + 1, sink, bytes =>
    match sink.take? bytes.length with
    | none => ⟨[],false⟩
    | some (taken,next) =>
      if taken = 0 then ⟨[],false⟩
      else
        let rest := deliverWithin calls next (bytes.drop taken)
        ⟨bytes.take taken ++ rest.accepted,rest.complete⟩

/-- Each call takes a byte or ends the delivery, so as many calls as there are bytes will do. -/
def deliver (sink : Sink) (bytes : List UInt8) : Delivery := deliverWithin bytes.length sink bytes

end Sink

end InformerGen
