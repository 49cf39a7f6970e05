import Phrasebook.Service.Basic

/-! Registration. A controller is registered as a whole or not at all: its type must be new,
every route must compile under its own case rule, and instances per command need a factory.
Only then a factory is run. -/
namespace Phrasebook

namespace Controller

variable {ι σ ω : Type} [HostTypes ι]

def compileTemplate (c : Controller ι σ ω) (route : Route ι) : Except TemplateError Template :=
  match Template.compile (c.fullTemplate route) with
  | .error e => .error e
  | .ok template => (template.checkNames (c.ruleFor route)).map fun _ => template

/-- The command for a route of the controller that is to take the given place. -/
def command (c : Controller ι σ ω) (place : Nat) (bound : Route ι × Nat) :
    Except RegistrationError (Command ι) :=
  match c.compileTemplate bound.1 with
  | .error e => .error (.malformedTemplate c.name (c.fullTemplate bound.1) e)
  | .ok template =>
    .ok ⟨place, c.name, bound.2, template, c.ruleFor bound.1, bound.1.description?,
      bound.1.params⟩

/-- The first bad route ends the compilation. -/
def compile (c : Controller ι σ ω) (place : Nat) :
    List (Route ι × Nat) → Except RegistrationError (List (Command ι))
  | [] => .ok []
  | bound :: more =>
    match c.command place bound with
    | .error e => .error e
    | .ok command => (c.compile place more).map (command :: ·)

def instantiate (c : Controller ι σ ω) (world : ω) :
    Except RegistrationError (Instance σ ω × ω) :=
  match c.source, c.perCommand with
  | .given _, true => .error (.missingFactory c.name)
  | .given state, false => .ok (.shared state, world)
  | .factory build, false => .ok (.shared (build world).1, (build world).2)
  | .factory build, true => .ok (.perCommand build, world)

end Controller

namespace Service

variable {ι σ ω : Type} [HostTypes ι] [DecidableEq ι]

/-- A registration's answer: the service, unchanged on an error, and the events. -/
structure Registered (ι σ ω : Type) [HostTypes ι] where
  service : Service ι σ ω
  result : Except RegistrationError Unit
  events : List Event

def commandEvents (s : Service ι σ ω) (c : Command ι) : List Event :=
  .routeRegistered c.controllerName c.route ::
    (c.params.filter fun p => !s.registry.canConvert p.kind.type).map fun p =>
      .notConvertibleYet c.route p.name p.kind.name

def registrationEvents (s : Service ι σ ω) (name : Text) (commands : List (Command ι)) :
    List Event :=
  .controllerRegistered name commands.length :: commands.flatMap s.commandEvents

def register (s : Service ι σ ω) (c : Controller ι σ ω) : Registered ι σ ω :=
  if s.knows c.typeName then ⟨s, .error (.duplicateController c.name), []⟩
  else match c.compile s.members.length c.routes with
    | .error e => ⟨s, .error e, []⟩
    | .ok commands =>
      match c.instantiate s.world with
      | .error e => ⟨s, .error e, []⟩
      | .ok (current, world) =>
        ⟨{ s with
            members := s.members ++ [⟨c.name, current, c.handlers⟩]
            typeNames := s.typeNames ++ [c.typeName]
            commands := s.commands ++ commands
            world := world },
          .ok (), s.registrationEvents c.name commands⟩

def addParser (s : Service ι σ ω) (p : Parser ι) : Registered ι σ ω :=
  match s.registry.add p with
  | .error e => ⟨s, .error e, []⟩
  | .ok registry => ⟨{ s with registry := registry }, .ok (), [.parserAdded p.type.name]⟩

end Service
end Phrasebook
