import Phrasebook.Service.Basic

/-! Dispatching one line: the first command that matches is the one, its arguments are bound,
and its handler is invoked once. A later command is never tried after a failure. -/
namespace Phrasebook

namespace Service

variable {ι σ ω : Type} [HostTypes ι]

def firstMatch? (line : Text) : List (Command ι) → Option (Command ι × Captures)
  | [] => none
  | c :: more =>
    match c.match? line with
    | some captures => some (c, captures)
    | none => firstMatch? line more

/-- The commands up to the first that matches, that one included. -/
def tried (line : Text) : List (Command ι) → List (Command ι)
  | [] => []
  | c :: more => c :: if (c.match? line).isSome then [] else tried line more

/-- The controller and the handler of a command. -/
def handler? (s : Service ι σ ω) (c : Command ι) : Option (Member ι σ ω × Handler ι σ ω) :=
  match s.members[c.controller]? with
  | none => none
  | some m => m.handlers[c.handler]?.map (m, ·)

def context (s : Service ι σ ω) (c : Command ι) (line : Text) : Context :=
  ⟨line, c.controllerName, c.route, s.lastResult?, s.listings⟩

/-- A handler has run: what has become of the service, and the reply. -/
structure Invoked (ι σ ω : Type) [HostTypes ι] where
  service : Service ι σ ω
  exitRequested : Bool
  result : Except Failure (Option Json)
  events : List Event

/-- A shared instance keeps what the handler made of it; one built for the command is gone
afterwards. -/
def invoke (s : Service ι σ ω) (c : Command ι) (line : Text) (arguments : Arguments ι) :
    Invoked ι σ ω :=
  match s.handler? c with
  | none =>
    ⟨s, false,
      .error ⟨s!"controller '{c.controllerName.string}' has no handler #{c.handler}", []⟩, []⟩
  | some (m, handler) =>
    match m.current with
    | .shared state =>
      let reply := handler (s.context c line) arguments state s.world
      let member := { m with current := .shared reply.state }
      ⟨{ s with members := s.members.set c.controller member, world := reply.world },
        reply.exitRequested, reply.result, []⟩
    | .perCommand build =>
      let (state, world) := build s.world
      let reply := handler (s.context c line) arguments state world
      ⟨{ s with world := reply.world }, reply.exitRequested, reply.result,
        [.instanceCreated m.name]⟩

/-- A line has been dispatched; listeners have not been told yet. -/
structure Dispatch (ι σ ω : Type) [HostTypes ι] where
  service : Service ι σ ω
  outcome : Outcome
  request? : Option ExitRequest
  events : List Event

def requestOf (c : Command ι) (exitRequested : Bool) : Option ExitRequest :=
  if exitRequested then some ⟨c.controllerName, c.route⟩ else none

/-- The last result changes with a success only. -/
def conclude (c : Command ι) (line : Text) (events : List Event) (i : Invoked ι σ ω) :
    Dispatch ι σ ω :=
  let request? := requestOf c i.exitRequested
  match i.result with
  | .error failure => ⟨i.service, .error (.handler line failure), request?, events ++ i.events⟩
  | .ok value? =>
    ⟨{ i.service with lastResult? := value? },
      .ok ⟨value?, c.controllerName, c.route, request?⟩, request?, events ++ i.events⟩

def dispatch [DecidableEq ι] (s : Service ι σ ω) (line : Text) : Dispatch ι σ ω :=
  let trying := (tried line s.commands).map fun c => Event.tryingRoute c.route
  match firstMatch? line s.commands with
  | none => ⟨s, .error (.unknownCommand line), none, trying ++ [.nothingMatched line]⟩
  | some (c, captures) =>
    let events := trying ++ [.routeMatched line c.route c.controllerName]
    match c.bind captures s.registry with
    | .error e => ⟨s, .error (.conversion line e), none, events⟩
    | .ok arguments => conclude c line events (s.invoke c line arguments)

end Service
end Phrasebook
