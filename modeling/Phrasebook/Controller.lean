import Phrasebook.Arguments
import Phrasebook.Json.Basic
import Phrasebook.Template.Basic

/-! Controllers: routes bound to handlers, with a prefix, a case rule and a policy for the
instance that the handlers work on. Instances are of one type `σ`; `ω` is the world that all
handlers and factories share. -/
namespace Phrasebook

structure Route (ι : Type) [HostTypes ι] where
  template : Text
  description? : Option Text := none
  usesPrefix : Bool := true
  /-- Overrides the controller's rule. -/
  caseRule? : Option CaseRule := none
  params : List (Param ι) := []

/-- A route as listings show it. -/
structure Listing where
  route : Text
  description? : Option Text
  controller : Text
  deriving DecidableEq, Repr

/-- What a handler can see of the dispatch it runs in. -/
structure Context where
  line : Text
  controller : Text
  route : Text
  lastResult? : Option Json
  listings : List Listing

def Context.debug (c : Context) (exitRequested : Bool) : String :=
  let line := (Text.quoted c.line).string
  let controller := (Text.quoted c.controller).string
  let route := (Text.quoted c.route).string
  s!"CommandContext \x7b line: {line}, controller: {controller}, route: {route}, " ++
    s!"has_last_result: {c.lastResult?.isSome}, exit_requested: {exitRequested}, .. \x7d"

/-- What a handler leaves behind. An exit may be asked for by a failing handler too. -/
structure Reply (σ ω α : Type) where
  state : σ
  world : ω
  exitRequested : Bool
  result : Except Failure α

abbrev Handler (ι σ ω : Type) [HostTypes ι] :=
  Context → Arguments ι → σ → ω → Reply σ ω (Option Json)

/-- A handler from a function with a plain answer: a null answer is no value. -/
def Handler.answering {ι σ ω : Type} [HostTypes ι]
    (f : Context → Arguments ι → σ → ω → Reply σ ω Json) : Handler ι σ ω :=
  fun context arguments state world =>
    let reply := f context arguments state world
    { reply with result := reply.result.map Json.nonNull? }

/-- Where a controller's instances come from. -/
inductive Source (σ ω : Type) where
  | given (state : σ)
  | factory (build : ω → σ × ω)

/-- A handler and the routes that lead to it, which may be several or none. -/
structure Entry (ι σ ω : Type) [HostTypes ι] where
  routes : List (Route ι)
  handler : Handler ι σ ω

structure Controller (ι σ ω : Type) [HostTypes ι] where
  /-- The full name of the controller's type. No two registered controllers share it. -/
  typeName : Text
  name : Text
  lead : Text
  caseRule : CaseRule
  perCommand : Bool
  source : Source σ ω
  entries : List (Entry ι σ ω)

namespace Controller

variable {ι σ ω : Type} [HostTypes ι]

/-- A controller without routes, named after its type. -/
def ofSource (typeName : Text) (source : Source σ ω) : Controller ι σ ω :=
  ⟨typeName, TypeName.short typeName, [], .ignoring, false, source, []⟩

/-- Binds one handler to some routes. -/
def bind (c : Controller ι σ ω) (routes : List (Route ι)) (handler : Handler ι σ ω) :
    Controller ι σ ω :=
  { c with entries := c.entries ++ [⟨routes, handler⟩] }

def handlers (c : Controller ι σ ω) : List (Handler ι σ ω) := c.entries.map (·.handler)

/-- The routes of some entries, each with the place of its entry; `place` is the first. -/
def routesFrom (place : Nat) : List (Entry ι σ ω) → List (Route ι × Nat)
  | [] => []
  | e :: more => e.routes.map (·, place) ++ routesFrom (place + 1) more

/-- All routes in the order of declaration, each with the place of its handler. -/
def routes (c : Controller ι σ ω) : List (Route ι × Nat) := routesFrom 0 c.entries

/-- A route's template with the controller's prefix, unless the route does without it. -/
def fullTemplate (c : Controller ι σ ω) (route : Route ι) : Text :=
  if route.usesPrefix then c.lead ++ route.template else route.template

def ruleFor (c : Controller ι σ ω) (route : Route ι) : CaseRule :=
  route.caseRule?.getD c.caseRule

def debug (c : Controller ι σ ω) : String :=
  let name := (Text.quoted c.name).string
  let lead := (Text.quoted c.lead).string
  let caseSensitive := c.caseRule = CaseRule.exact
  s!"Controller \x7b name: {name}, prefix: {lead}, case_sensitive: {decide caseSensitive}, " ++
    s!"per_command: {c.perCommand}, routes: {c.routes.length}, .. \x7d"

end Controller
end Phrasebook
