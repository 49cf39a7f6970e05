import Phrasebook.Proofs.Service.Declared
import Phrasebook.Proofs.Service.Exit
import Phrasebook.Proofs.Service.Instances
import Phrasebook.Proofs.Service.RouteTable

/-! The log of a service. What is logged for a line says which routes were tried, where the line
went, whether an instance was built for it and whether an exit was asked for; what is logged for a
registration says what was registered and which parameters cannot be converted yet. -/
namespace Phrasebook

/-- What a log shows of an event. -/
structure Record where
  level : Level
  message : String
  fields : List (String × Text)
  deriving DecidableEq, Repr

def Event.record (e : Event) : Record := ⟨e.level, e.message, e.fields⟩

/-- A record is there once if a condition holds, and not at all if it does not. -/
inductive Once (p : Prop) (r : Record) : List Record → Prop
  | there : p → Once p r [r]
  | absent : ¬ p → Once p r []

theorem Once.unique {p : Prop} {r : Record} {xs ys : List Record} (hx : Once p r xs)
    (hy : Once p r ys) : xs = ys := by
  cases hx with
  | there holds =>
    cases hy with
    | there => rfl
    | absent fails => exact absurd holds fails
  | absent fails =>
    cases hy with
    | there holds => exact absurd holds fails
    | absent => rfl

def Instance.isPerCommand {σ ω : Type} : Instance σ ω → Bool
  | .shared _ => false
  | .perCommand _ => true

@[simp] theorem Instance.isPerCommand_worked {σ ω : Type} (i : Instance σ ω)
    (changes : List (σ → σ)) : (i.worked changes).isPerCommand = i.isPerCommand := by
  cases i <;> rfl

namespace Service

variable {ι σ ω : Type} [HostTypes ι]

section Policies

variable [DecidableEq ι]

end Policies

def tryingRecord (c : Command ι) : Record := ⟨.trace, "trying route", [("route", c.route)]⟩

variable [DecidableEq ι]

/-- The records of a line that is dispatched, up to the signal if there is one. The controllers are
those that the service has accepted. -/
inductive Logged (s : Service ι σ ω) (controllers : List (Controller ι σ ω)) (line : Text) :
    List Record → Prop
  | unmatched : (∀ c ∈ s.commands, c.match? line = none) →
      Logged s controllers line
        (s.commands.map tryingRecord ++ [⟨.warn, "no route matched", [("line", line)]⟩])
  | matched {i : Nat} {c : Command ι} {captures : Captures} {controller : Controller ι σ ω}
      {created asked : List Record} :
      FirstAt line s.commands i c captures → controllers[c.controller]? = some controller →
      Once ((∃ arguments, c.bind captures s.registry = .ok arguments) ∧
          controller.perCommand = true)
        ⟨.trace, "creating controller instance", [("controller", controller.name)]⟩ created →
      Once (s.AsksExit (some line) ⟨controller.name, c.route⟩)
        ⟨.debug, "exit requested", [("controller", controller.name), ("route", c.route)]⟩ asked →
      Logged s controllers line
        ((s.commands.take (i + 1)).map tryingRecord ++
          ⟨.debug, "route matched",
            [("line", line), ("route", c.route), ("controller", controller.name)]⟩ ::
          (created ++ asked))

section Line

variable {s : Service ι σ ω} {controllers : List (Controller ι σ ω)} {line : Text} {i : Nat}
  {c : Command ι} {captures : Captures}

theorem Logged.unique {log other : List Record} (h : Logged s controllers line log)
    (k : Logged s controllers line other) : log = other := by
  cases h with
  | unmatched none =>
    cases k with
    | unmatched => rfl
    | matched first => cases (none _ (List.mem_of_getElem? first.here)).symm.trans first.matched
  | matched first owner created asked =>
    cases k with
    | unmatched none => cases (none _ (List.mem_of_getElem? first.here)).symm.trans first.matched
    | matched again owner' created' asked' =>
      cases first.unique again
      cases first.here.symm.trans again.here
      cases first.matched.symm.trans again.matched
      cases owner.symm.trans owner'
      rw [created.unique created', asked.unique asked']

end Line

/-- The records of a route that is registered under its full template: the parameters whose kinds
have no converter at that moment follow it. -/
def routeLog (s : Service ι σ ω) (c : Controller ι σ ω) (full : Text) (route : Route ι) :
    List Record :=
  ⟨.trace, "registered route", [("controller", c.name), ("route", full)]⟩ ::
  (route.params.filter fun p => !s.registry.canConvert p.kind.type).map fun p =>
    ⟨.warn, "no converter for parameter kind yet",
      [("route", full), ("param", p.name), ("kind", p.kind.name)]⟩

inductive RoutesLogged (s : Service ι σ ω) (c : Controller ι σ ω) :
    List (Route ι × Nat) → List Record → Prop
  | none : RoutesLogged s c [] []
  | route {bound : Route ι × Nat} {routes : List (Route ι × Nat)} {full : Text}
      {log : List Record} :
      c.HasTemplate bound.1 full → RoutesLogged s c routes log →
      RoutesLogged s c (bound :: routes) (s.routeLog c full bound.1 ++ log)

/-- The records of a controller that is registered: its name and the number of its routes, and then
the routes in the order of declaration. -/
inductive RegistrationLogged (s : Service ι σ ω) (c : Controller ι σ ω) : List Record → Prop
  | intro {log : List Record} : s.RoutesLogged c c.routes log →
      RegistrationLogged s c
        (⟨.debug, "registered controller",
          [("controller", c.name), ("routes", (toString c.routes.length).toList)]⟩ :: log)

section Register

variable {s : Service ι σ ω} {c : Controller ι σ ω}

theorem RoutesLogged.unique {routes : List (Route ι × Nat)} {log other : List Record}
    (h : s.RoutesLogged c routes log) (k : s.RoutesLogged c routes other) : log = other := by
  induction h generalizing other with
  | none =>
    cases k
    rfl
  | route written _ ih =>
    cases k with
    | route again rest => rw [written.unique again, ih rest]

theorem RegistrationLogged.unique {log other : List Record} (h : s.RegistrationLogged c log)
    (k : s.RegistrationLogged c other) : log = other := by
  cases h with
  | intro routes =>
    cases k with
    | intro again => rw [routes.unique again]

end Register

/-- A controller with an instance per command, whose handler asks for an exit and fails. -/
def leaving : Controller Demo.HostType Unit Unit :=
  { Controller.ofSource "Door".toList (.factory fun world => ((), world)) with perCommand := true }
  |>.bind [{ template := "leave".toList }, { template := "leave now".toList }] fun _ _ state world =>
    ⟨state, world, true, .error ⟨"stuck", []⟩⟩

/-- The parser for ages is added after the controller. -/
example : ((new ⟨[], .scripted []⟩ : Demo.DemoService).register Demo.ages).events.map (·.message) =
    ["registered controller", "registered route", "no converter for parameter kind yet"] := by
  decide

end Service
end Phrasebook
