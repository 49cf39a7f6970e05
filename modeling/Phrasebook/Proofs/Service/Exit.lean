import Phrasebook.Proofs.Service.LastResult
import Phrasebook.Script.Scene

/-! Exits. A handler that asks for one has it signalled after its dispatch, whether it succeeds or
fails: the flag goes up, then the listeners that are there by then are called in order. They may
do what they like to the service, but the outcome of the line is settled. -/
namespace Phrasebook.Service

variable {ι σ ω : Type} [HostTypes ι]

/-- The listener that an act adds. -/
def Act.listener? : Act ι σ ω → Option (Listener ι σ ω)
  | .listen listener => some listener
  | _ => none

theorem flagged_listeners (d : Dispatch ι σ ω) : d.flagged.listeners = d.service.listeners := by
  obtain ⟨up, flagged⟩ := d.flagged_frame
  rw [flagged]

theorem invoke_events (s : Service ι σ ω) (c : Command ι) (line : Text)
    (arguments : Arguments ι) {event : Event}
    (member : event ∈ (s.invoke c line arguments).events) :
    ∃ name, event = .instanceCreated name := by
  unfold invoke at member
  cases found : s.handler? c with
  | none => simp [found] at member
  | some pair =>
    obtain ⟨m, handler⟩ := pair
    cases current : m.current with
    | shared state => simp [found, current] at member
    | perCommand build =>
      refine ⟨m.name, ?_⟩
      simpa [found, current] using member

theorem conclude_events (c : Command ι) (line : Text) (events : List Event) (i : Invoked ι σ ω) :
    (conclude c line events i).events = events ++ i.events := by
  unfold conclude
  cases i.result <;> rfl

variable [DecidableEq ι]

theorem done_listeners (s : Service ι σ ω) (act : Act ι σ ω) :
    (s.done act).listeners = s.listeners ++ act.listener?.toList := by
  cases act with
  | register c =>
    obtain ⟨_, _, _, _, registered⟩ := register_frame s c
    simp [done, registered, Act.listener?]
  | addParser p =>
    obtain ⟨registry, added⟩ := addParser_frame s p
    simp [done, added, Act.listener?]
  | listen listener => rfl
  | clearExit => exact (List.append_nil _).symm
  | update change => exact (List.append_nil _).symm
  | execute line? =>
    rw [done, flagged_listeners, (received_keeps s line?).listeners]
    exact (List.append_nil _).symm

/-- Listeners are added behind those that are there, and none is ever dropped. -/
theorem after_listeners (s : Service ι σ ω) (acts : List (Act ι σ ω)) :
    (s.after acts).listeners = s.listeners ++ acts.filterMap Act.listener? := by
  induction acts generalizing s with
  | nil => exact (List.append_nil _).symm
  | cons act acts ih =>
    rw [after, ih, done_listeners, List.append_assoc, List.filterMap_cons]
    cases act.listener? <;> rfl

/-- Of all that can be done to a service only clearing lowers the flag. -/
theorem done_exitRequested {s : Service ι σ ω} {act : Act ι σ ω} (up : s.exitRequested = true)
    (kept : act ≠ .clearExit) : (s.done act).exitRequested = true := by
  cases act with
  | register c =>
    obtain ⟨_, _, _, _, registered⟩ := register_frame s c
    simp only [done, registered, up]
  | addParser p =>
    obtain ⟨registry, added⟩ := addParser_frame s p
    simp only [done, added, up]
  | listen listener => exact up
  | clearExit => exact absurd rfl kept
  | update change => exact up
  | execute line? =>
    rw [done]
    cases asked : (s.received line?).request? with
    | none => rw [flagged_quiet asked, (received_keeps s line?).exitRequested, up]
    | some request => rw [flagged_asked asked]

theorem after_exitRequested {s : Service ι σ ω} {acts : List (Act ι σ ω)}
    (up : s.exitRequested = true) (kept : .clearExit ∉ acts) :
    (s.after acts).exitRequested = true := by
  induction acts generalizing s with
  | nil => exact up
  | cons act acts ih =>
    have here : act ≠ .clearExit := fun same => kept (same ▸ List.mem_cons_self)
    have later : .clearExit ∉ acts := fun member => kept (List.mem_cons_of_mem act member)
    exact ih (done_exitRequested up here) later

/-- The line has a handler called that asks for an exit, by success or failure. -/
def AsksExit (s : Service ι σ ω) (line? : Option Text) (request : ExitRequest) : Prop :=
  ∃ line c reply after, line? = some line ∧ s.Invokes line c reply after ∧
    reply.exitRequested = true ∧ request = ⟨c.controllerName, c.route⟩

theorem request?_eq_some_iff {s : Service ι σ ω} {line? : Option Text} {request : ExitRequest} :
    (s.received line?).request? = some request ↔ s.AsksExit line? request := by
  constructor
  · intro asked
    rcases s.refused_or_invokes line? with refused | ⟨line, c, reply, after, rfl, invokes⟩
    · rw [refused.request] at asked
      cases asked
    · rw [invokes.request?_eq, requestOf] at asked
      split at asked
      · next wish => exact ⟨line, c, reply, after, rfl, invokes, wish, by cases asked; rfl⟩
      · cases asked
  · rintro ⟨line, c, reply, after, rfl, invokes, wish, rfl⟩
    rw [invokes.request?_eq, requestOf, if_pos wish]

/-- An outcome that is a success carries the request, and a failure carries none. -/
theorem received_exit {s : Service ι σ ω} {line? : Option Text} {succeeded : Dispatched}
    (ok : (s.received line?).outcome = .ok succeeded) :
    succeeded.exit? = (s.received line?).request? := by
  rcases s.refused_or_invokes line? with refused | ⟨line, c, reply, after, rfl, invokes⟩
  · obtain ⟨error, failed⟩ := refused.outcome
    cases failed.symm.trans ok
  · rw [invokes.request?_eq]
    cases result : reply.result with
    | ok value? =>
      cases (invokes.of_ok result).1.symm.trans ok
      rfl
    | error failure => cases (invokes.of_error result).1.symm.trans ok

/-- A dispatch by itself signals nothing. -/
theorem received_events (s : Service ι σ ω) (line? : Option Text) (controller route : Text) :
    .exitRequested controller route ∉ (s.received line?).events := by
  match line? with
  | none => exact List.not_mem_nil
  | some [] => exact List.not_mem_nil
  | some (first :: more) =>
    rw [received_line (List.cons_ne_nil first more), dispatch]
    cases chosen : firstMatch? (first :: more) s.commands with
    | none => simp
    | some pair =>
      obtain ⟨c, captures⟩ := pair
      dsimp only
      cases bound : c.bind captures s.registry with
      | error e => simp
      | ok arguments =>
        intro member
        rw [conclude_events, List.mem_append] at member
        rcases member with before | created
        · simp at before
        · obtain ⟨name, same⟩ := invoke_events s c _ arguments created
          cases same

/-- A request is signalled after the dispatch of a line. The flag is up before the first listener
is called, and each listener that is there then is called once, in order, with the request:
`found i` is the service as the listener at place `i` finds it, `acts i` is what it does. -/
structure Signals (s : Service ι σ ω) (line? : Option Text) (request : ExitRequest)
    (e : Executed ι σ ω) (found : Nat → Service ι σ ω) (acts : Nat → List (Act ι σ ω)) : Prop where
  raised : found 0 = { (s.received line?).service with exitRequested := true }
  called : ∀ i listener, (s.received line?).service.listeners[i]? = some listener →
    Does (.react (listener request)) (found i) (acts i) (found (i + 1))
  last : e.service = found (s.received line?).service.listeners.length
  whole : Does (.line line?) s
    (.execute line? :: (List.range (s.received line?).service.listeners.length).flatMap acts)
    e.service
  reported : e.events = (s.received line?).events ++
    .exitRequested request.controller request.route ::
      (List.range (s.received line?).service.listeners.length).flatMap fun i =>
        (found i).events (acts i)

/-- A sequence with one more item in front. -/
def prepend {β : Type} (first : β) (rest : Nat → β) (i : Nat) : β :=
  if i = 0 then first else rest (i - 1)

@[simp] theorem prepend_zero {β : Type} (first : β) (rest : Nat → β) :
    prepend first rest 0 = first := rfl

@[simp] theorem prepend_succ {β : Type} (first : β) (rest : Nat → β) (i : Nat) :
    prepend first rest (i + 1) = rest i := rfl

/-- Telling listeners is calling each of them once, in order. -/
theorem does_tell {request : ExitRequest} {listeners : List (Listener ι σ ω)} {s t : Service ι σ ω}
    {all : List (Act ι σ ω)} (h : Does (.tell request listeners) s all t) :
    ∃ (found : Nat → Service ι σ ω) (acts : Nat → List (Act ι σ ω)),
      found 0 = s ∧ found listeners.length = t ∧
      (∀ i listener, listeners[i]? = some listener →
        Does (.react (listener request)) (found i) (acts i) (found (i + 1))) ∧
      all = (List.range listeners.length).flatMap acts ∧
      s.events all = (List.range listeners.length).flatMap fun i => (found i).events (acts i) := by
  induction listeners generalizing s all with
  | nil =>
    cases h
    exact ⟨fun _ => t, fun _ => [], rfl, rfl, by simp, rfl, rfl⟩
  | cons listener more ih =>
    cases h with
    | @tell _ _ _ _ _ _ mine _ here rest =>
      obtain ⟨found, acts, first, last, called, rfl, reported⟩ := ih rest
      -- The places of the listeners after the first are shifted by one.
      refine ⟨prepend s found, prepend mine acts, rfl, last, fun i other there => ?_, ?_, ?_⟩
      · cases i with
        | zero =>
          cases there
          rw [← first] at here
          exact here
        | succ i => exact called i other there
      · simp [List.range_succ_eq_map, List.flatMap_map]
      · rw [events_append, ← here.eq_after, reported]
        simp [List.range_succ_eq_map, List.flatMap_map]

section Executed

variable {s : Service ι σ ω} {line? : Option Text} {depth : Nat} {e : Executed ι σ ω}

theorem signals_of_asksExit {request : ExitRequest} (asks : s.AsksExit line? request)
    (executed : executeWithin depth s line? = some e) :
    ∃ found acts, Signals s line? request e found acts := by
  have asked := request?_eq_some_iff.2 asks
  obtain ⟨more, does, _, _, reported⟩ := executeWithin_acts executed
  rcases does.line_cases with ⟨quiet, _⟩ | ⟨other, _, same, first, told⟩
  · cases asked.symm.trans quiet
  · cases asked.symm.trans same
    cases first
    obtain ⟨found, acts, raised, last, called, rfl, events⟩ := does_tell told
    refine ⟨found, acts, raised, called, last.symm, does, ?_⟩
    rw [reported, events_cons, done, flagged_asked asked, events, Moment.events]
    simp only [reported_asked asked, List.append_assoc, List.singleton_append]

theorem executed_quiet (silent : ∀ request, ¬ s.AsksExit line? request)
    (executed : executeWithin depth s line? = some e) :
    e.service = (s.received line?).service ∧ e.events = (s.received line?).events := by
  obtain ⟨more, does, _, _, reported⟩ := executeWithin_acts executed
  rcases does.line_cases with ⟨quiet, first, same⟩ | ⟨request, _, asked, _, _⟩
  · cases first
    exact ⟨same, by simp [reported, Moment.events, reported_quiet quiet]⟩
  · exact absurd (request?_eq_some_iff.1 asked) (silent request)

theorem Signals.asksExit {request : ExitRequest} {found : Nat → Service ι σ ω}
    {acts : Nat → List (Act ι σ ω)} (signals : Signals s line? request e found acts)
    (executed : executeWithin depth s line? = some e) : s.AsksExit line? request := by
  by_cases asks : ∃ other, s.AsksExit line? other
  · obtain ⟨other, asks⟩ := asks
    obtain ⟨_, _, signalled⟩ := signals_of_asksExit asks executed
    have same := signals.reported.symm.trans signalled.reported
    rw [List.append_cancel_left_eq] at same
    have heads := (List.cons.inj same).1
    cases request
    cases other
    cases heads
    exact asks
  · have silent := (executed_quiet (not_exists.1 asks) executed).2
    have longer := congrArg List.length (silent.symm.trans signals.reported)
    simp at longer

/-- The flag is up after an exit has been asked for, unless a listener lowers it. -/
theorem AsksExit.raises {request : ExitRequest} {more : List (Act ι σ ω)}
    (asks : s.AsksExit line? request) (kept : .clearExit ∉ more) :
    (s.after (.execute line? :: more)).exitRequested = true := by
  rw [after, done, flagged_asked (request?_eq_some_iff.2 asks)]
  exact after_exitRequested rfl kept

/-- A success carries the request that was made. -/
theorem executed_exit_iff (executed : executeWithin depth s line? = some e)
    (request : ExitRequest) :
    (∃ succeeded, e.outcome = .ok succeeded ∧ succeeded.exit? = some request) ↔
      s.AsksExit line? request ∧ ∃ succeeded, e.outcome = .ok succeeded := by
  obtain ⟨_, _, _, outcome, _⟩ := executeWithin_acts executed
  rw [outcome, ← request?_eq_some_iff]
  constructor
  · rintro ⟨succeeded, ok, exit⟩
    exact ⟨received_exit ok ▸ exit, succeeded, ok⟩
  · rintro ⟨asked, succeeded, ok⟩
    exact ⟨succeeded, ok, (received_exit ok).trans asked⟩

theorem executed_up_iff {more : List (Act ι σ ω)}
    (executed : executeWithin depth s line? = some e)
    (same : e.service = s.after (.execute line? :: more)) (kept : .clearExit ∉ more) :
    e.service.exitRequested = true ↔
      s.exitRequested = true ∨ ∃ request, s.AsksExit line? request := by
  constructor
  · intro up
    by_cases asks : ∃ request, s.AsksExit line? request
    · exact .inr asks
    · have quiet := (executed_quiet (not_exists.1 asks) executed).1
      rw [quiet, (received_keeps s line?).exitRequested] at up
      exact .inl up
  · intro cause
    rw [same]
    rcases cause with up | ⟨request, asks⟩
    · have raised : (s.done (.execute line?)).exitRequested = true :=
        done_exitRequested up nofun
      rw [after]
      exact after_exitRequested raised kept
    · exact asks.raises kept

end Executed

/-- An exit is signalled just when a handler was called and asked for it, once and with the names
of its command. Listeners are called after the dispatch is done and the flag is up; what they do,
lines that they execute included, does not touch the outcome. Listeners that are added meanwhile
come behind those that are called and stay for later requests, and only clearing lowers the
flag. -/
theorem exit_signalled {s : Service ι σ ω} {line? : Option Text} {depth : Nat}
    {e : Executed ι σ ω} (executed : executeWithin depth s line? = some e) :
    (∀ request, (∃ found acts, Signals s line? request e found acts) ↔
      s.AsksExit line? request) ∧
    ((∀ request, ¬ s.AsksExit line? request) →
      e.service = (s.received line?).service ∧ e.events = (s.received line?).events) ∧
    (∀ controller route, .exitRequested controller route ∉ (s.received line?).events) ∧
    (s.received line?).service.listeners = s.listeners ∧
    (s.received line?).service.exitRequested = s.exitRequested ∧
    (s.received line?).service.lastResult? = (match e.outcome with
      | .ok succeeded => succeeded.value?
      | .error _ => s.lastResult?) ∧
    e.outcome = (s.received line?).outcome ∧
    (∀ request, (∃ succeeded, e.outcome = .ok succeeded ∧ succeeded.exit? = some request) ↔
      s.AsksExit line? request ∧ ∃ succeeded, e.outcome = .ok succeeded) ∧
    (∃ more, Does (.line line?) s (.execute line? :: more) e.service ∧
      (∀ later, (e.service.after later).listeners =
        s.listeners ++ (more ++ later).filterMap Act.listener?) ∧
      (.clearExit ∉ more → (e.service.exitRequested = true ↔
        s.exitRequested = true ∨ ∃ request, s.AsksExit line? request))) ∧
    (∀ (t : Service ι σ ω) act, t.exitRequested = true → (t.done act).exitRequested = false →
      act = .clearExit) := by
  obtain ⟨more, does, same, outcome, _⟩ := executeWithin_acts executed
  have keeps := received_keeps s line?
  refine ⟨fun request => ⟨fun ⟨_, _, signals⟩ => signals.asksExit executed,
      fun asks => signals_of_asksExit asks executed⟩,
    fun silent => executed_quiet silent executed, received_events s line?, keeps.listeners,
    keeps.exitRequested, ?_, outcome, executed_exit_iff executed,
    ⟨more, does, fun later => ?_, executed_up_iff executed same⟩, fun t act up down => ?_⟩
  · rw [outcome]
    exact received_lastResult s line?
  · rw [same, ← after_append, after_listeners]
    rfl
  · by_contra other
    rw [done_exitRequested up other] at down
    cases down

section Example

open Script

/-- Closing the door asks for an exit and then fails. -/
def door : ControllerSpec where
  typeName := "Door".toList
  name? := none
  lead := []
  caseRule := .ignoring
  perCommand := false
  origin := .given
  seed := 0
  entries :=
    [⟨[{ template := "close".toList }], [.exit, .fail ⟨"stuck", []⟩], false⟩,
     ⟨[{ template := "count".toList }], [.count, .answer .count], false⟩]

/-- A guard counts when the door is closed, and lowers the flag. -/
def guarded : SceneService :=
  (newService.register door.controller).service.listen
    (listener [⟨"guard".toList, some "count".toList, true⟩])

/-- The failure is reported though the guard's own line has succeeded. -/
theorem guarded_close_signals : ∃ e, executeWithin 1 guarded (some "close".toList) = some e ∧
    (∃ found acts, Signals guarded (some "close".toList) ⟨"Door".toList, "close".toList⟩ e
      found acts) ∧
    e.outcome = .error (.handler "close".toList ⟨"stuck", []⟩) ∧
    e.service.exitRequested = false ∧ e.service.lastResult? = some (.integer 1) := by
  have seen : (executeWithin 1 guarded (some "close".toList)).map
      (fun e => (e.outcome, e.service.exitRequested, e.service.lastResult?)) =
      some (.error (.handler "close".toList ⟨"stuck", []⟩), false, some (.integer 1)) := rfl
  have asks : AsksExit guarded (some "close".toList) ⟨"Door".toList, "close".toList⟩ :=
    request?_eq_some_iff.1 rfl
  obtain ⟨e, executed, same⟩ := Option.map_eq_some_iff.1 seen
  obtain ⟨outcome, flag, last⟩ : _ ∧ _ ∧ _ := by simpa using same
  exact ⟨e, executed, ((exit_signalled executed).1 _).2 asks, outcome, flag, last⟩

/-- Whoever listens to the door may register a controller. -/
example :
    let window := { door with typeName := "Window".toList }
    let widening : Listener HostType Tally Scene := fun _ =>
      .register window.controller fun _ => .done
    (executeWithin 0 ((newService.register door.controller).service.listen widening)
        (some "close".toList)).map (·.service.typeNames) =
      some ["Door".toList, "Window".toList] := rfl

end Example

end Phrasebook.Service
