import Phrasebook.Demo.Controllers
import Phrasebook.Proofs.Service.Declared

/-! How a line is answered, as a relation: no line, no command, no arguments, or one call of the
handler of the first command that matches. Executing a line in any state of use gives this answer,
and a line that gets no call changes nothing. -/
namespace Phrasebook.Service

variable {ι σ ω : Type} [HostTypes ι]

/-- An answer: the kind of the error, if it is one, the service before any listener is told, the
outcome, and the exit that is asked for. -/
structure Verdict (ι σ ω : Type) [HostTypes ι] where
  kind? : Option String
  service : Service ι σ ω
  outcome : Outcome
  request? : Option ExitRequest

/-- Nothing is changed by an error that comes before the handler. -/
def Verdict.refused (s : Service ι σ ω) (kind : String) (error : CommandError) : Verdict ι σ ω :=
  ⟨some kind, s, .error error, none⟩

variable {s : Service ι σ ω} {line : Text} {line? : Option Text} {v w : Verdict ι σ ω}

/-- A dispatch gives the answer, with some events. -/
def Gives (d : Dispatch ι σ ω) (v : Verdict ι σ ω) : Prop :=
  ∃ events, d = ⟨v.service, v.outcome, v.request?, events⟩

/-! Telling the listeners does not change an outcome. -/

variable [DecidableEq ι]

section Signal

variable {execute : Executor ι σ ω} {d : Dispatch ι σ ω}

end Signal

inductive Answers (s : Service ι σ ω) : Option Text → Verdict ι σ ω → Prop
  | absent : Answers s none (.refused s "EmptyInput" (.emptyInput none))
  | empty : Answers s (some []) (.refused s "EmptyInput" (.emptyInput (some [])))
  | unknown {line : Text} :
      line ≠ [] → (∀ c ∈ s.commands, c.match? line = none) →
      Answers s (some line) (.refused s "UnknownCommand" (.unknownCommand line))
  | noParser {line name kind : Text} {i : Nat} {c : Command ι} {captures : Captures} :
      line ≠ [] → FirstAt line s.commands i c captures →
      c.bind captures s.registry = .error (.noParser name kind) →
      Answers s (some line) (.refused s "NoConverter" (.conversion line (.noParser name kind)))
  | notConverted {line name kind : Text} {failure : Failure} {i : Nat} {c : Command ι}
      {captures : Captures} :
      line ≠ [] → FirstAt line s.commands i c captures →
      c.bind captures s.registry = .error (.failed name kind failure) →
      Answers s (some line)
        (.refused s "ArgumentConversion" (.conversion line (.failed name kind failure)))
  | failed {line : Text} {i : Nat} {c : Command ι} {captures : Captures}
      {arguments : Arguments ι} {reply : Reply σ ω (Option Json)} {after : Service ι σ ω}
      {failure : Failure} :
      line ≠ [] → FirstAt line s.commands i c captures →
      c.bind captures s.registry = .ok arguments → s.Calls c line arguments reply after →
      reply.result = .error failure →
      Answers s (some line) ⟨some "HandlerExecution", after, .error (.handler line failure),
        requestOf c reply.exitRequested⟩
  | succeeded {line : Text} {i : Nat} {c : Command ι} {captures : Captures}
      {arguments : Arguments ι} {reply : Reply σ ω (Option Json)} {after : Service ι σ ω}
      {value? : Option Json} :
      line ≠ [] → FirstAt line s.commands i c captures →
      c.bind captures s.registry = .ok arguments → s.Calls c line arguments reply after →
      reply.result = .ok value? →
      Answers s (some line) ⟨none, { after with lastResult? := value? },
        .ok ⟨value?, c.controllerName, c.route, requestOf c reply.exitRequested⟩,
        requestOf c reply.exitRequested⟩

theorem Answers.gives (h : Answers s (some line) v) (nonempty : line ≠ []) :
    Gives (s.dispatch line) v := by
  cases h with
  | empty => exact absurd rfl nonempty
  | unknown _ unmatched =>
    exact ⟨_, by simp only [dispatch, firstMatch?_eq_none_iff.2 unmatched]; rfl⟩
  | noParser _ first unbound =>
    exact ⟨_, by simp only [dispatch, firstMatch?_eq_some_iff.2 ⟨_, first⟩, unbound]; rfl⟩
  | notConverted _ first unbound =>
    exact ⟨_, by simp only [dispatch, firstMatch?_eq_some_iff.2 ⟨_, first⟩, unbound]; rfl⟩
  | failed _ first bound called result =>
    obtain ⟨before, events, dispatched⟩ := dispatch_bound first bound called
    exact ⟨before ++ events, by rw [dispatched, conclude, result]⟩
  | succeeded _ first bound called result =>
    obtain ⟨before, events, dispatched⟩ := dispatch_bound first bound called
    exact ⟨before ++ events, by rw [dispatched, conclude, result]⟩

/-- The kind and the line of an error are those of the answer. -/
theorem Answers.error_eq {error : CommandError} (h : Answers s line? v)
    (failed : v.outcome = .error error) : v.kind? = some error.kindName ∧ error.line? = line? := by
  cases h <;> cases failed <;> exact ⟨rfl, rfl⟩

theorem Answers.kind?_of_ok {done : Dispatched} (h : Answers s line? v)
    (ok : v.outcome = .ok done) : v.kind? = none := by
  cases h with
  | succeeded => rfl
  | _ => cases ok

theorem Answers.of_empty (h : Answers s (some []) v) :
    v = .refused s "EmptyInput" (.emptyInput (some [])) := by
  cases h <;> first | rfl | contradiction

theorem Answers.unique (h : Answers s line? v) (k : Answers s line? w) : v = w := by
  match line?, h, k with
  | none, h, k => cases h; cases k; rfl
  | some [], h, k => exact h.of_empty.trans k.of_empty.symm
  | some (first :: more), h, k =>
    obtain ⟨events, dv⟩ := h.gives (List.cons_ne_nil _ _)
    obtain ⟨_, dw⟩ := k.gives (List.cons_ne_nil _ _)
    obtain ⟨service, outcome, request, _⟩ := Dispatch.mk.inj (dv.symm.trans dw)
    have kind : v.kind? = w.kind? := by
      cases result : v.outcome with
      | error error =>
        rw [(h.error_eq result).1, (k.error_eq (outcome ▸ result)).1]
      | ok done => rw [h.kind?_of_ok result, k.kind?_of_ok (outcome ▸ result)]
    cases v
    cases w
    simp_all

theorem Answers.service_eq (h : Answers s line? v)
    (kind : v.kind? ∈ [some "EmptyInput", some "UnknownCommand", some "NoConverter",
      some "ArgumentConversion"]) : v.service = s ∧ v.request? = none := by
  cases h with
  | failed => simp at kind
  | succeeded => simp at kind
  | _ => exact ⟨rfl, rfl⟩

/-- An execution tells the listeners of what the answer asks for. -/
theorem Answers.executeWithin_eq (h : Answers s line? v) (depth : Nat) :
    ∃ d, Gives d v ∧ executeWithin depth s line? = signal (nested depth) d := by
  rw [Service.executeWithin_eq]
  match line?, h with
  | none, h =>
    cases h
    exact ⟨⟨s, .error (.emptyInput none), none, []⟩, ⟨[], rfl⟩, rfl⟩
  | some [], h =>
    cases h.of_empty
    exact ⟨⟨s, .error (.emptyInput (some [])), none, []⟩, ⟨[], rfl⟩, rfl⟩
  | some (first :: more), h =>
    have nonempty : first :: more ≠ [] := List.cons_ne_nil _ _
    exact ⟨_, h.gives nonempty, executeUsing_line nonempty⟩

end Phrasebook.Service
