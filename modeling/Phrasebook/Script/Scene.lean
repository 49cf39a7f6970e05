import Phrasebook.Script.Parser
import Phrasebook.Script.Program
import Phrasebook.Service.Register
import Phrasebook.Service.Run

/-! Controllers and listeners given as data, and the world that they share: how many instances
have been built, and what the listeners have seen. -/
namespace Phrasebook.Script

/-- An entry in the record of the listeners. -/
inductive Sighting where
  | notified (listener : Text) (request : ExitRequest) (view : View)
  | executed (listener : Text) (outcome : Outcome)

structure Scene where
  builds : Nat
  sightings : List Sighting

abbrev SceneService := Service HostType Tally Scene

def newService : SceneService := .new ⟨0, []⟩

/-- Where the instances of a scripted controller come from. -/
inductive Origin where
  | given
  /-- Counts from the seed, a thousand further for every instance built before. -/
  | factory
  /-- Always counts from zero. -/
  | fromDefault
  deriving DecidableEq, Repr

def Origin.source (seed : Int) : Origin → Source Tally Scene
  | given => .given ⟨seed, []⟩
  | factory => .factory fun scene =>
    (⟨seed + 1000 * scene.builds, []⟩, { scene with builds := scene.builds + 1 })
  | fromDefault => .factory fun scene => (⟨0, []⟩, scene)

structure ProgramEntry where
  routes : List (Route HostType)
  program : List Instruction
  direct : Bool

structure ControllerSpec where
  typeName : Text
  name? : Option Text
  lead : Text
  caseRule : CaseRule
  perCommand : Bool
  origin : Origin
  seed : Int
  entries : List ProgramEntry

def bindEntry (c : Controller HostType Tally Scene) (e : ProgramEntry) :
    Controller HostType Tally Scene :=
  c.bind e.routes (handler e.program e.direct)

def ControllerSpec.controller (spec : ControllerSpec) : Controller HostType Tally Scene :=
  let plain := Controller.ofSource spec.typeName (spec.origin.source spec.seed)
  let named := { plain with
    name := spec.name?.getD plain.name
    lead := spec.lead
    caseRule := spec.caseRule
    perCommand := spec.perCommand }
  spec.entries.foldl bindEntry named

/-- A listener: it records what it sees, may execute a line and record the outcome, and may
lower the flag. -/
structure Watch where
  listener : Text
  line? : Option Text
  clears : Bool

def record (sighting : Sighting) (next : Reaction HostType Tally Scene) :
    Reaction HostType Tally Scene :=
  .update (fun scene => { scene with sightings := scene.sightings ++ [sighting] }) next

def Watch.react (w : Watch) (request : ExitRequest)
    (next : Reaction HostType Tally Scene) : Reaction HostType Tally Scene :=
  .observe fun view _ =>
    record (.notified w.listener request view) <|
      let last := if w.clears then .clearExit next else next
      match w.line? with
      | none => last
      | some line => .execute (some line) fun outcome => record (.executed w.listener outcome) last

/-- The first watch of a chain. At the end of each notification it adds the rest of the chain
as a listener of its own. -/
def listener : List Watch → Listener HostType Tally Scene
  | [] => fun _ => .done
  | [w] => fun request => w.react request .done
  | w :: more => fun request => w.react request (.listen (listener more) .done)

/-- How deep the lines that listeners execute may nest. -/
def depth : Nat := 64

end Phrasebook.Script
