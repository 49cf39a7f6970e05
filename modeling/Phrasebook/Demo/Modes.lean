import Phrasebook.Demo.Controllers
import Phrasebook.Input
import Phrasebook.Service.Run

/-! The demo's two modes. Lines given as options are executed one by one; otherwise lines are read
from the input after a greeting. Failures are reported with their causes. -/
namespace Phrasebook.Demo

/-- The options, once they have been read from the arguments. The prompt is for a terminal, and
`verbose` is for the log. -/
structure Options where
  prompt? : Option Text := none
  verbose : Bool := false
  commands : List Text := []
  deriving DecidableEq, Repr

/-- The report of a failed line: kind and message, then a line for each cause. -/
def errorLines (e : CommandError) : List String :=
  s!"[ERROR: {e.kindName}] {e.message}" :: e.causes.map fun cause => s!"  caused by: {cause}"

/-- The demo has no listeners, so no line is executed while another one is. -/
def depth : Nat := 0

/-- Executes lines up to the first one after which an exit is requested, which may have failed,
and collects the errors. -/
def executeLines : DemoService → List Text → Option (DemoService × List CommandError)
  | s, [] => some (s, [])
  | s, line :: more =>
    match s.executeWithin depth (some line) with
    | none => none
    | some e =>
      let failed := match e.outcome with
        | .error error => [error]
        | .ok _ => []
      if e.service.exitRequested then some (e.service, failed)
      else (executeLines e.service more).map fun (last, errors) => (last, failed ++ errors)

/-- What the demo leaves when it has run. -/
structure Finished where
  code : Nat
  stdout : String
  /-- The reports. The log, which the program writes here too unless it is turned off, is left out:
  the events that it shows are those of the service. -/
  stderr : String
  deriving DecidableEq, Repr

def linesText (lines : List String) : String := String.join (lines.map (· ++ "\n"))

def report (errors : List CommandError) : String := linesText (errors.flatMap errorLines)

def runCommands (secrets : Secrets) (lines : List Text) : Option Finished :=
  (executeLines (service secrets) lines).map fun (s, errors) =>
    ⟨0, s.world.transcript, report errors⟩

def welcome : String := "Type 'help' to show the available commands."

/-- The output is taken to be no terminal, so lines are read without a prompt. -/
def runInput (secrets : Secrets) (input : Input.Bytes) : Option Finished :=
  let greeted := { service secrets with world := ⟨[.line welcome], secrets⟩ }
  (greeted.runWithin depth (Input.each Input.readChunk) (Input.chunks input)).map fun r =>
    match r.result with
    | .ok () => ⟨0, r.service.world.transcript, report r.errors⟩
    | .error e =>
      ⟨1, r.service.world.transcript, report r.errors ++ linesText [s!"Error: {e.message}"]⟩

def runOptions (secrets : Secrets) (options : Options) (input : Input.Bytes) : Option Finished :=
  if options.commands = [] then runInput secrets input else runCommands secrets options.commands

end Phrasebook.Demo
