import Mathlib.Logic.Relation
import Phrasebook.Proofs.Service.Dispatch
import Phrasebook.Proofs.Service.Registration
import Phrasebook.Service.Execute

/-! The states in which a service can be used: those its owner sees between two operations and
those a listener sees while it is told of an exit. -/
namespace Phrasebook.Service

variable {ι σ ω : Type} [HostTypes ι] [DecidableEq ι]

/-- What can happen between two uses of a service. The world may change at any time; a line whose
handler asks for an exit is first seen with the flag up. -/
inductive Step : Service ι σ ω → Service ι σ ω → Prop
  | register (s : Service ι σ ω) (c : Controller ι σ ω) : Step s (s.register c).service
  | addParser (s : Service ι σ ω) (p : Parser ι) : Step s (s.addParser p).service
  | listen (s : Service ι σ ω) (listener : Listener ι σ ω) : Step s (s.listen listener)
  | clearExit (s : Service ι σ ω) : Step s s.clearExit
  | update (s : Service ι σ ω) (world : ω) : Step s { s with world := world }
  | dispatched {s : Service ι σ ω} {line : Text} :
      line ≠ [] → (s.dispatch line).request? = none → Step s (s.dispatch line).service
  | signalled {s : Service ι σ ω} {line : Text} {request : ExitRequest} :
      line ≠ [] → (s.dispatch line).request? = some request →
      Step s { (s.dispatch line).service with exitRequested := true }

def Reaches : Service ι σ ω → Service ι σ ω → Prop := Relation.ReflTransGen Step

def Reachable (s : Service ι σ ω) : Prop := ∃ world, Reaches (.new world) s

/-- Execution for the lines that listeners execute; at depth zero there is none. -/
def nested : Nat → Executor ι σ ω
  | 0 => fun _ _ => none
  | depth + 1 => executeWithin depth

theorem executeWithin_eq (depth : Nat) :
    (executeWithin depth : Executor ι σ ω) = executeUsing (nested depth) := by
  cases depth <;> rfl

theorem executeUsing_line {execute : Executor ι σ ω} {s : Service ι σ ω} {line : Text}
    (nonempty : line ≠ []) :
    executeUsing execute s (some line) = signal execute (s.dispatch line) := by
  cases line with
  | nil => exact absurd rfl nonempty
  | cons c line => rfl

end Phrasebook.Service
