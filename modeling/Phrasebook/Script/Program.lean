import Phrasebook.Controller
import Phrasebook.Json.Shape
import Phrasebook.Script.HostType

/-! Handlers given as programs. A program counts and keeps a log in its controller's instance,
looks at its arguments and ends with an answer. -/
namespace Phrasebook.Script

/-- An instance of a scripted controller. -/
structure Tally where
  count : Int
  log : List Json

/-- One look at the arguments. Taking a value removes it. -/
inductive Access where
  | get (name : Text) (type : ScriptType)
  | take (name : Text) (type : ScriptType)
  | required (name : Text) (type : ScriptType)
  | contains (name : Text)
  | any (name : Text)
  | info

def writeAny (arguments : Arguments HostType) (name : Text) : Json :=
  match arguments.any? name with
  | some value => writeTyped value
  | none => .null

def writeFailure (kind : String) (failure : Failure) : Json :=
  .ofFields [("error".toList, .ofString kind), ("message".toList, .ofString failure.message)]

def writeInfo (arguments : Arguments HostType) : Json :=
  .ofFields
    [("names".toList, .array (arguments.names.map .text)),
     ("len".toList, .integer arguments.size),
     ("is_empty".toList, .bool arguments.isEmpty),
     ("debug".toList, .ofString arguments.debug)]

namespace Access

/-- What an access yields, and the arguments after it. -/
def run (arguments : Arguments HostType) : Access → Json × Arguments HostType
  | get name type => (.ofOption ((arguments.get? name type).map (write type)), arguments)
  | take name type =>
    let (content?, rest) := arguments.take name type
    (.ofOption (content?.map (write type)), rest)
  | required name type =>
    match arguments.required name type with
    | .ok content => (.array [write type content], arguments)
    | .error e => (writeFailure "Missing" e, arguments)
  | contains name => (.bool (arguments.contains name), arguments)
  | any name => (writeAny arguments name, arguments)
  | info => (writeInfo arguments, arguments)

end Access

/-- What a program can answer. -/
inductive Answer where
  | value (json : Json)
  | line
  | route
  | count
  | log
  | exitRequested
  | arguments
  | argumentsDebug
  | contextDebug
  | last
  | lastAs (shape : Shape)
  | listings
  /-- The last result, if it is a 64-bit integer, plus the count. -/
  | sum
  | argument (name : Text) (type : ScriptType)
  /-- An object with a key that is no text: it cannot be an answer. -/
  | badKeys

inductive Instruction where
  | count
  | log (name : Text)
  | exit
  | fail (failure : Failure)
  | need (name : Text) (type : ScriptType)
  | remember (access : Access)
  | answer (answer : Answer)

def writeListing (l : Listing) : Json :=
  .ofFields
    [("route".toList, .text l.route),
     ("description".toList, match l.description? with | some d => .text d | none => .null),
     ("controller".toList, .text l.controller)]

def lastInteger (context : Context) : Int :=
  match context.lastResult?.bind Json.integer? with
  | some n => if Shape.fits ⟨true, .bits64⟩ n then n else 0
  | none => 0

/-- A program in the middle of its run. -/
structure Progress where
  tally : Tally
  arguments : Arguments HostType
  exitRequested : Bool

def Answer.give (context : Context) (p : Progress) : Answer → Except Failure Json
  | value json => .ok json
  | line => .ok (.text context.line)
  | route => .ok (.array [.text context.controller, .text context.route])
  | count => .ok (.integer p.tally.count)
  | log => .ok (.array p.tally.log)
  | exitRequested => .ok (.bool p.exitRequested)
  | arguments =>
    .ok (.array (p.arguments.names.map fun name =>
      .array [.text name, writeAny p.arguments name]))
  | argumentsDebug => .ok (.ofString p.arguments.debug)
  | contextDebug => .ok (.ofString (context.debug p.exitRequested))
  | last => .ok (.ofOption context.lastResult?)
  | lastAs shape => .ok (.ofOption (context.lastResult?.bind shape.read?))
  | listings => .ok (.array (context.listings.map writeListing))
  | sum => .ok (.integer (lastInteger context + p.tally.count))
  | argument name type =>
    match p.arguments.required name type with
    | .error e => .error e
    | .ok content => Script.answer type content
  | badKeys => .error ⟨"key must be a string", []⟩

variable {ω : Type}

/-- A finished program has no answer if it never came to give one. -/
def finish (p : Progress) (world : ω) (result : Except Failure (Option Json)) :
    Reply Tally ω (Option Json) := ⟨p.tally, world, p.exitRequested, result⟩

def runFrom (context : Context) (world : ω) :
    List Instruction → Progress → Reply Tally ω (Option Json)
  | [], p => finish p world (.ok none)
  | .count :: more, p =>
    runFrom context world more { p with tally := { p.tally with count := p.tally.count + 1 } }
  | .log name :: more, p =>
    runFrom context world more
      { p with tally := { p.tally with log := p.tally.log ++ [writeAny p.arguments name] } }
  | .exit :: more, p => runFrom context world more { p with exitRequested := true }
  | .fail failure :: _, p => finish p world (.error failure)
  | .need name type :: more, p =>
    match p.arguments.required name type with
    | .error e => finish p world (.error e)
    | .ok _ => runFrom context world more p
  | .remember access :: more, p =>
    let (seen, rest) := access.run p.arguments
    runFrom context world more
      { p with tally := { p.tally with log := p.tally.log ++ [seen] }, arguments := rest }
  | .answer answer :: _, p => finish p world ((answer.give context p).map some)

/-- A direct handler keeps a null answer; any other takes it for no value. -/
def handler (program : List Instruction) (direct : Bool) :
    Handler HostType Tally ω :=
  fun context arguments tally world =>
    let reply := runFrom context world program ⟨tally, arguments, false⟩
    if direct then reply
    else { reply with result := reply.result.map (·.bind Json.nonNull?) }

end Phrasebook.Script
