import Phrasebook.Service.Execute

/-! The command loop. It reads a line only while the exit flag is down, reports every line that
fails, and goes on until the flag is up, the input ends or a line cannot be read. A report is one
call of the caller's callback; these calls are listed and not made, so a callback that uses the
service itself, by executing a line or lowering the flag, is left out. -/
namespace Phrasebook

namespace Service

variable {ι σ ω : Type} [HostTypes ι]

structure Run (ι σ ω ε α : Type) [HostTypes ι] where
  service : Service ι σ ω
  result : Except ε Unit
  /-- The calls of the callback for errors, in order. What it does is not part of the run. -/
  errors : List CommandError
  /-- The items not read. -/
  left : List α
  events : List Event

/-- What a line adds to the report of the lines after it. -/
def Run.after {ε α : Type} (e : Executed ι σ ω) (r : Run ι σ ω ε α) : Run ι σ ω ε α :=
  { r with
    errors := match e.outcome with
      | .error error => error :: r.errors
      | .ok _ => r.errors
    events := e.events ++ r.events }

/-- A source is a list of items, of which each is read as a line, as the end of the input, or as
an error. What comes after the end or an error is left. -/
def runWithin [DecidableEq ι] {ε α : Type} (depth : Nat)
    (read : α → Except ε (Option Text)) : Service ι σ ω → List α → Option (Run ι σ ω ε α)
  | s, [] => some ⟨s, .ok (), [], [], if s.exitRequested then [] else [.endOfInput]⟩
  | s, item :: more =>
    if s.exitRequested then some ⟨s, .ok (), [], item :: more, []⟩
    else match read item with
      | .error e => some ⟨s, .error e, [], more, []⟩
      | .ok none => some ⟨s, .ok (), [], more, [.endOfInput]⟩
      | .ok (some line) =>
        match executeWithin depth s (some line) with
        | none => none
        | some e => (runWithin depth read e.service more).map (Run.after e)

end Service
end Phrasebook
