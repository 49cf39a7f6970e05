import Phrasebook.Command
import Phrasebook.Service.Event
import Phrasebook.Service.Reaction

/-! The service: registered controllers, their commands in order of registration, parsers, the
last result, the exit flag, listeners, and the world of the handlers. -/
namespace Phrasebook

/-- The instance of a registered controller. -/
inductive Instance (σ ω : Type) where
  | shared (state : σ)
  | perCommand (build : ω → σ × ω)

/-- A registered controller. -/
structure Member (ι σ ω : Type) [HostTypes ι] where
  name : Text
  current : Instance σ ω
  handlers : List (Handler ι σ ω)

structure Service (ι σ ω : Type) [HostTypes ι] where
  members : List (Member ι σ ω)
  /-- The full names of the members' types. -/
  typeNames : List Text
  commands : List (Command ι)
  registry : Registry ι
  lastResult? : Option Json
  exitRequested : Bool
  listeners : List (Listener ι σ ω)
  world : ω

namespace Service

variable {ι σ ω : Type} [HostTypes ι]

def new (world : ω) : Service ι σ ω := ⟨[], [], [], ⟨[]⟩, none, false, [], world⟩

def knows (s : Service ι σ ω) (typeName : Text) : Bool :=
  s.typeNames.contains typeName

theorem knows_iff (s : Service ι σ ω) (typeName : Text) :
    s.knows typeName = true ↔ typeName ∈ s.typeNames := by
  simp [knows]

def routeCount (s : Service ι σ ω) : Nat := s.commands.length

def listings (s : Service ι σ ω) : List Listing := s.commands.map (·.listing)

def listen (s : Service ι σ ω) (listener : Listener ι σ ω) : Service ι σ ω :=
  { s with listeners := s.listeners ++ [listener] }

def clearExit (s : Service ι σ ω) : Service ι σ ω := { s with exitRequested := false }

def debug (s : Service ι σ ω) : String :=
  s!"CommandService \x7b controllers: {s.members.length}, routes: {s.routeCount}, " ++
    s!"converters: {s.registry.debug}, exit_listeners: {s.listeners.length}, " ++
    s!"exit_requested: {s.exitRequested} \x7d"

def view (s : Service ι σ ω) : View :=
  ⟨s.exitRequested, s.routeCount, s.lastResult?, s.listings, s.debug⟩

end Service
end Phrasebook
