import Phrasebook.Service.Dispatch
import Phrasebook.Service.Register

/-! Executing a line: dispatching it and, if its handler asked for an exit, raising the flag
and telling the listeners. A listener may execute lines itself, and these may tell the
listeners again. The depth bounds that nesting; there is no answer when it does not suffice. -/
namespace Phrasebook

namespace Service

variable {ι σ ω : Type} [HostTypes ι]

structure Executed (ι σ ω : Type) [HostTypes ι] where
  service : Service ι σ ω
  outcome : Outcome
  events : List Event

/-- A way to execute a line, absent or not. -/
abbrev Executor (ι σ ω : Type) [HostTypes ι] :=
  Service ι σ ω → Option Text → Option (Executed ι σ ω)

variable [DecidableEq ι]

def perform (execute : Executor ι σ ω) :
    Reaction ι σ ω → Service ι σ ω → Option (Service ι σ ω × List Event)
  | .done, s => some (s, [])
  | .observe next, s => perform execute (next s.view s.world) s
  | .update change next, s => perform execute next { s with world := change s.world }
  | .register c next, s =>
    let r := s.register c
    (perform execute (next r.result) r.service).map fun (last, events) => (last, r.events ++ events)
  | .addParser p next, s =>
    let r := s.addParser p
    (perform execute (next r.result) r.service).map fun (last, events) => (last, r.events ++ events)
  | .execute line? next, s =>
    match execute s line? with
    | none => none
    | some e =>
      (perform execute (next e.outcome) e.service).map fun (last, events) =>
        (last, e.events ++ events)
  | .clearExit next, s => perform execute next s.clearExit
  | .listen listener next, s => perform execute next (s.listen listener)

/-- Calls some listeners in order. -/
def notify (execute : Executor ι σ ω) (request : ExitRequest) :
    List (Listener ι σ ω) → Service ι σ ω → Option (Service ι σ ω × List Event)
  | [], s => some (s, [])
  | listener :: more, s =>
    match perform execute (listener request) s with
    | none => none
    | some (next, events) =>
      (notify execute request more next).map fun (last, later) => (last, events ++ later)

/-- The listeners present when the exit is signalled are the ones that are called. -/
def signal (execute : Executor ι σ ω) (d : Dispatch ι σ ω) : Option (Executed ι σ ω) :=
  match d.request? with
  | none => some ⟨d.service, d.outcome, d.events⟩
  | some request =>
    (notify execute request d.service.listeners { d.service with exitRequested := true }).map
      fun (last, events) =>
        ⟨last, d.outcome,
          d.events ++ .exitRequested request.controller request.route :: events⟩

def executeUsing (execute : Executor ι σ ω) : Executor ι σ ω
  | s, none => some ⟨s, .error (.emptyInput none), []⟩
  | s, some [] => some ⟨s, .error (.emptyInput (some [])), []⟩
  | s, some line => signal execute (s.dispatch line)

def executeWithin : Nat → Executor ι σ ω
  | 0 => executeUsing fun _ _ => none
  | depth + 1 => executeUsing (executeWithin depth)

end Service
end Phrasebook
