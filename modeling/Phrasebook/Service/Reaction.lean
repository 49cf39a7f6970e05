import Phrasebook.Controller
import Phrasebook.Convert.Registry
import Phrasebook.Service.CommandError

/-! What a listener does when an exit is requested: a program over the service it listens to.
Each step is one use of the service, and the rest of the program may depend on the answer. A
listener can do all that the owner of the service can, and it shares the world of the handlers. -/
namespace Phrasebook

structure ExitRequest where
  controller : Text
  route : Text
  deriving DecidableEq, Repr

/-- A successful dispatch. -/
structure Dispatched where
  value? : Option Json
  controller : Text
  route : Text
  exit? : Option ExitRequest

abbrev Outcome := Except CommandError Dispatched

/-- What can be seen of a service from outside. -/
structure View where
  exitRequested : Bool
  routeCount : Nat
  lastResult? : Option Json
  listings : List Listing
  shown : String

inductive Reaction (ι σ ω : Type) [HostTypes ι] where
  | done
  | observe (next : View → ω → Reaction ι σ ω)
  | update (change : ω → ω) (next : Reaction ι σ ω)
  | register (c : Controller ι σ ω) (next : Except RegistrationError Unit → Reaction ι σ ω)
  | addParser (p : Parser ι) (next : Except RegistrationError Unit → Reaction ι σ ω)
  | execute (line? : Option Text) (next : Outcome → Reaction ι σ ω)
  | clearExit (next : Reaction ι σ ω)
  | listen (listener : ExitRequest → Reaction ι σ ω) (next : Reaction ι σ ω)

abbrev Listener (ι σ ω : Type) [HostTypes ι] := ExitRequest → Reaction ι σ ω

end Phrasebook
