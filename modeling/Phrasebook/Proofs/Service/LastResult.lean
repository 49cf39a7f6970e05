import Mathlib.Data.List.Induction
import Phrasebook.Proofs.Service.History

/-! The last result of a service is the value of the latest line that succeeded, whatever else was
done in between, and this is what the handler of the next line is given. -/
namespace Phrasebook.Service

/-- The value of the latest success. There is none without a success, and none if the latest
success had no value. -/
def latest (outcomes : List Outcome) : Option Json :=
  (outcomes.filterMap Except.toOption).getLast?.bind (·.value?)

@[simp] theorem latest_nil : latest [] = none := rfl

@[simp] theorem latest_append_ok (past : List Outcome) (succeeded : Dispatched) :
    latest (past ++ [.ok succeeded]) = succeeded.value? := by
  simp [latest, Except.toOption]

@[simp] theorem latest_append_error (past : List Outcome) (error : CommandError) :
    latest (past ++ [.error error]) = latest past := by
  simp [latest, Except.toOption]

variable {ι σ ω : Type} [HostTypes ι]

theorem flagged_lastResult (d : Dispatch ι σ ω) :
    d.flagged.lastResult? = d.service.lastResult? := by
  obtain ⟨up, flagged⟩ := d.flagged_frame
  rw [flagged]

variable [DecidableEq ι]

/-- A dispatch stores the value of a success and leaves the last result alone otherwise. -/
theorem received_lastResult (s : Service ι σ ω) (line? : Option Text) :
    (s.received line?).service.lastResult? =
      match (s.received line?).outcome with
      | .ok succeeded => succeeded.value?
      | .error _ => s.lastResult? := by
  rcases s.refused_or_invokes line? with refused | ⟨line, c, reply, after, rfl, invokes⟩
  · obtain ⟨error, failed⟩ := refused.outcome
    rw [refused.service, failed]
  · cases result : reply.result with
    | ok value? =>
      obtain ⟨outcome, service⟩ := invokes.of_ok result
      rw [outcome, service]
    | error failure =>
      obtain ⟨outcome, service⟩ := invokes.of_error result
      obtain ⟨_, _, _, called⟩ := invokes
      obtain ⟨members, world, rfl⟩ := called.frame
      rw [outcome, service]

/-- Only a line that is executed can change the last result. -/
theorem done_lastResult (s : Service ι σ ω) (act : Act ι σ ω) :
    (s.done act).lastResult? =
      match Moment.outcome? ⟨s, act⟩ with
      | some (.ok succeeded) => succeeded.value?
      | _ => s.lastResult? := by
  cases act with
  | register c =>
    obtain ⟨_, _, _, _, registered⟩ := register_frame s c
    rw [done, registered]
    rfl
  | addParser p =>
    obtain ⟨registry, added⟩ := addParser_frame s p
    rw [done, added]
    rfl
  | listen listener => rfl
  | clearExit => rfl
  | update change => rfl
  | execute line? =>
    rw [done, flagged_lastResult, received_lastResult]
    simp only [Moment.outcome?]
    cases (s.received line?).outcome <;> rfl

theorem after_lastResult (world : ω) (acts : List (Act ι σ ω)) :
    ((new world).after acts).lastResult? = latest ((new world).outcomes acts) := by
  induction acts using List.reverseRecOn with
  | nil => rfl
  | append_singleton acts act ih =>
    have last : ((new world).after acts).outcomes [act] =
        (Moment.outcome? ⟨(new world).after acts, act⟩).toList := by
      rw [outcomes, moments, moments, List.filterMap_cons]
      cases Moment.outcome? ⟨(new world).after acts, act⟩ <;> rfl
    have step := done_lastResult ((new world).after acts) act
    rw [outcomes_append, last, after_append, after, after, step]
    cases Moment.outcome? ⟨(new world).after acts, act⟩ with
    | none => simpa using ih
    | some outcome =>
      cases outcome with
      | ok succeeded => simp
      | error error => simpa using ih

/-- What a reply makes of the last result: a success stores its value. -/
theorem Invokes.lastResult {s after : Service ι σ ω} {line : Text} {c : Command ι}
    {reply : Reply σ ω (Option Json)} (invokes : s.Invokes line c reply after) :
    (s.done (.execute (some line))).lastResult? =
      match reply.result with
      | .ok value? => value?
      | .error _ => s.lastResult? := by
  rw [done, flagged_lastResult, received_lastResult]
  cases result : reply.result with
  | ok value? => rw [(invokes.of_ok result).1]
  | error failure => rw [(invokes.of_error result).1]

/-- What a handler that is a function answers becomes the last result, but a null leaves none. -/
theorem answering_lastResult {s after : Service ι σ ω} {line : Text} {c : Command ι}
    {reply : Reply σ ω (Option Json)} {plain : Reply σ ω Json}
    (invokes : s.Invokes line c reply after)
    (same : reply = { plain with result := plain.result.map Json.nonNull? }) :
    (plain.result = .ok .null → (s.done (.execute (some line))).lastResult? = none) ∧
    (∀ answer, plain.result = .ok answer → answer ≠ .null →
      (s.done (.execute (some line))).lastResult? = some answer) ∧
    (∀ failure, plain.result = .error failure →
      (s.done (.execute (some line))).lastResult? = s.lastResult?) := by
  rw [invokes.lastResult, same]
  refine ⟨fun null => ?_, fun answer answered some => ?_, fun failure failed => ?_⟩
  · rw [null]
    rfl
  · rw [answered]
    cases answer with
    | null => exact absurd rfl some
    | _ => rfl
  · rw [failed]
    rfl

/-- The last result is threaded from success to success. After any acts it is the value of the
latest success; a line that fails leaves it alone. A line is refused or has a handler called, whose
reply settles the dispatch, and the handler is given the last result as it was before its own line.
The answer of a handler that is a function becomes the last result, and one that is null, as nothing
is, takes it away. Executing a line, with all that the listeners do about it, adds acts of the same
kind. -/
theorem lastResult_eq_latest (world : ω) (acts : List (Act ι σ ω)) :
    let s := (new world).after acts
    let past := (new world).outcomes acts
    s.lastResult? = latest past ∧
    (∀ line? succeeded, (s.received line?).outcome = .ok succeeded →
      (s.done (.execute line?)).lastResult? = succeeded.value?) ∧
    (∀ line? error, (s.received line?).outcome = .error error →
      (s.done (.execute line?)).lastResult? = s.lastResult?) ∧
    (∀ line?, Refused s (s.received line?) ∨
      ∃ line c reply after, line? = some line ∧ s.Invokes line c reply after) ∧
    (∀ line c reply after, s.Invokes line c reply after →
      (∃ before events, s.received (some line) =
        conclude c line before ⟨after, reply.exitRequested, reply.result, events⟩) ∧
      ∃ i captures arguments m handler, FirstAt line s.commands i c captures ∧
        c.bind captures s.registry = .ok arguments ∧ s.Calls c line arguments reply after ∧
        s.handler? c = some (m, handler) ∧
        reply = handler ⟨line, c.controllerName, c.route, latest past, s.listings⟩ arguments
          (m.current.start s.world).1 (m.current.start s.world).2) ∧
    (∀ line c reply after f m, s.Invokes line c reply after →
      s.handler? c = some (m, Handler.answering f) →
      ∃ i captures arguments, FirstAt line s.commands i c captures ∧
        c.bind captures s.registry = .ok arguments ∧ s.Calls c line arguments reply after ∧
        let plain := f ⟨line, c.controllerName, c.route, latest past, s.listings⟩ arguments
          (m.current.start s.world).1 (m.current.start s.world).2
        reply = { plain with result := plain.result.map Json.nonNull? } ∧
        (plain.result = .ok .null → (s.done (.execute (some line))).lastResult? = none) ∧
        (∀ answer, plain.result = .ok answer → answer ≠ .null →
          (s.done (.execute (some line))).lastResult? = some answer) ∧
        (∀ failure, plain.result = .error failure →
          (s.done (.execute (some line))).lastResult? = s.lastResult?)) ∧
    (∀ depth line? e, executeWithin depth s line? = some e →
      ∃ more, Does (.line line?) s (.execute line? :: more) e.service ∧
        e.service = (new world).after (acts ++ .execute line? :: more) ∧
        e.outcome = (s.received line?).outcome) := by
  intro s past
  have now : s.lastResult? = latest past := after_lastResult world acts
  refine ⟨now, fun line? succeeded ok => ?_, fun line? error failed => ?_, s.refused_or_invokes,
    fun line c reply after invokes => ⟨invokes.received_eq, ?_⟩,
    fun line c reply after f m invokes direct => ?_, fun depth line? e executed => ?_⟩
  · rw [done, flagged_lastResult, received_lastResult, ok]
  · rw [done, flagged_lastResult, received_lastResult, failed]
  · rw [← now]
    exact invokes.reply_eq
  · rw [← now]
    obtain ⟨i, captures, arguments, n, handler, first, bound, called, found, same⟩ :=
      invokes.reply_eq
    cases found.symm.trans direct
    exact ⟨i, captures, arguments, first, bound, called, same, answering_lastResult invokes same⟩
  · obtain ⟨more, does, same, outcome, _⟩ := executeWithin_acts executed
    exact ⟨more, does, by rw [after_append]; exact same, outcome⟩

end Phrasebook.Service
