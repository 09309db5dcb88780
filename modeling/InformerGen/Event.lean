/-! What the steps of a generation report while they run. -/
namespace InformerGen

inductive Level where
  | warn
  | debug
  | trace
deriving DecidableEq, Repr

namespace Level

def text : Level → String
  | warn => "warn"
  | debug => "debug"
  | trace => "trace"

def rank : Level → Nat
  | warn => 0
  | debug => 1
  | trace => 2

def ofText? (text : String) : Option Level := [warn,debug,trace].find? (·.text == text)

end Level

structure Event where
  level : Level
  message : String
  fields : List (String × String)
deriving DecidableEq, Repr

namespace Event

/-- A reader that listens at one level sees the events of that level and those that matter more. -/
def visible (threshold : Level) (events : List Event) : List Event :=
  events.filter fun event => event.level.rank ≤ threshold.rank

end Event

end InformerGen
