import InformerGen.Event
import InformerGen.GenerationError

/-!
Computations that record imports and events on the way. A failure keeps what was recorded before it.
-/
namespace InformerGen

structure Trail where
  imports : ImportTracker
  events : List Event
deriving DecidableEq

namespace Trail

def empty : Trail := ⟨.empty,[]⟩

end Trail

def Recording (α : Type) := Trail → Except GenerationError α × Trail

namespace Recording

instance : Monad Recording where
  pure value := fun trail => (.ok value,trail)
  bind first next := fun trail =>
    match first trail with
    | (.ok value,trail) => next value trail
    | (.error error,trail) => (.error error,trail)

def lift {α : Type} (result : Except GenerationError α) : Recording α := fun trail => (result,trail)

def report (event : Event) : Recording Unit := fun trail =>
  (.ok (),{ trail with events := trail.events ++ [event] })

def reportAll (events : List Event) : Recording Unit := fun trail =>
  (.ok (),{ trail with events := trail.events ++ events })

def recordImport (path qualifier : String) : Recording Unit := fun trail =>
  let (result,imports) := trail.imports.add path qualifier
  (result.mapError .imports,{ trail with imports })

@[simp] theorem pure_apply {α : Type} (value : α) (trail : Trail) :
    (pure value : Recording α) trail = (.ok value,trail) := rfl

theorem bind_apply {α β : Type} (first : Recording α) (next : α → Recording β) (trail : Trail) :
    (first >>= next) trail =
      match first trail with
      | (.ok value,trail) => next value trail
      | (.error error,trail) => (.error error,trail) := rfl

end Recording

end InformerGen
