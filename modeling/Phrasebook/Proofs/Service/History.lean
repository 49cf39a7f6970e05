import Phrasebook.Proofs.Service.Reachable

/-! A service act by act. Executing a line comes apart into acts that are done one after another:
the line itself, then whatever the listeners do about it. `Does` says so without any bound on how
deep the listeners nest, and execution within a depth agrees with it. -/
namespace Phrasebook.Service

variable {ι σ ω : Type} [HostTypes ι]

/-- Something done to a service. A line that is executed is done when it has been dispatched and,
if its handler asks for an exit, the flag is up; what the listeners do are acts of their own. -/
inductive Act (ι σ ω : Type) [HostTypes ι] where
  | register (c : Controller ι σ ω)
  | addParser (p : Parser ι)
  | listen (listener : Listener ι σ ω)
  | clearExit
  | update (change : ω → ω)
  | execute (line? : Option Text)

def Dispatch.flagged (d : Dispatch ι σ ω) : Service ι σ ω :=
  match d.request? with
  | none => d.service
  | some _ => { d.service with exitRequested := true }

/-- At most the flag changes. -/
theorem Dispatch.flagged_frame (d : Dispatch ι σ ω) :
    ∃ up, d.flagged = { d.service with exitRequested := up } := by
  unfold Dispatch.flagged
  cases d.request? with
  | none => exact ⟨d.service.exitRequested, rfl⟩
  | some request => exact ⟨true, rfl⟩

/-- The events up to the signal, if there is one. -/
def Dispatch.reported (d : Dispatch ι σ ω) : List Event :=
  match d.request? with
  | none => d.events
  | some request => d.events ++ [.exitRequested request.controller request.route]

section Request

variable {d : Dispatch ι σ ω} {request : ExitRequest}

theorem flagged_quiet (quiet : d.request? = none) : d.flagged = d.service := by
  simp only [Dispatch.flagged, quiet]

theorem flagged_asked (asked : d.request? = some request) :
    d.flagged = { d.service with exitRequested := true } := by
  simp only [Dispatch.flagged, asked]

theorem reported_quiet (quiet : d.request? = none) : d.reported = d.events := by
  simp only [Dispatch.reported, quiet]

theorem reported_asked (asked : d.request? = some request) :
    d.reported = d.events ++ [.exitRequested request.controller request.route] := by
  simp only [Dispatch.reported, asked]

end Request

variable [DecidableEq ι]

/-- What becomes of a line, absent or not, before any listener is told. -/
def received (s : Service ι σ ω) : Option Text → Dispatch ι σ ω
  | none => ⟨s, .error (.emptyInput none), none, []⟩
  | some [] => ⟨s, .error (.emptyInput (some [])), none, []⟩
  | some line => s.dispatch line

theorem received_line {s : Service ι σ ω} {line : Text} (nonempty : line ≠ []) :
    s.received (some line) = s.dispatch line := by
  cases line with
  | nil => exact absurd rfl nonempty
  | cons c line => rfl

theorem received_keeps (s : Service ι σ ω) (line? : Option Text) :
    Keeps s (s.received line?).service := by
  match line? with
  | none => exact .rfl
  | some [] => exact .rfl
  | some (c :: line) =>
    rw [received_line (List.cons_ne_nil c line)]
    exact dispatch_keeps s (c :: line)

theorem executeUsing_eq (execute : Executor ι σ ω) (s : Service ι σ ω) (line? : Option Text) :
    executeUsing execute s line? = signal execute (s.received line?) := by
  match line? with
  | none => rfl
  | some [] => rfl
  | some (_ :: _) => rfl

/-- The line has the handler of its command called: the first command that matches it, with
arguments that could be bound. -/
inductive Invokes (s : Service ι σ ω) (line : Text) (c : Command ι)
    (reply : Reply σ ω (Option Json)) (after : Service ι σ ω) : Prop
  | intro {i : Nat} {captures : Captures} {arguments : Arguments ι} :
      line ≠ [] → FirstAt line s.commands i c captures →
      c.bind captures s.registry = .ok arguments → s.Calls c line arguments reply after →
      Invokes s line c reply after

section Invokes

variable {s after : Service ι σ ω} {line : Text} {c : Command ι}
  {reply : Reply σ ω (Option Json)}

theorem Invokes.received_eq (h : s.Invokes line c reply after) :
    ∃ before events, s.received (some line) =
      conclude c line before ⟨after, reply.exitRequested, reply.result, events⟩ := by
  obtain ⟨nonempty, first, bound, called⟩ := h
  rw [received_line nonempty]
  exact dispatch_bound first bound called

theorem Invokes.request?_eq (h : s.Invokes line c reply after) :
    (s.received (some line)).request? = requestOf c reply.exitRequested := by
  obtain ⟨before, events, received⟩ := h.received_eq
  rw [received, conclude]
  cases reply.result <;> rfl

theorem Invokes.of_error {failure : Failure} (h : s.Invokes line c reply after)
    (failed : reply.result = .error failure) :
    (s.received (some line)).outcome = .error (.handler line failure) ∧
      (s.received (some line)).service = after := by
  obtain ⟨before, events, received⟩ := h.received_eq
  rw [received, conclude, failed]
  exact ⟨rfl, rfl⟩

theorem Invokes.of_ok {value? : Option Json} (h : s.Invokes line c reply after)
    (ok : reply.result = .ok value?) :
    (s.received (some line)).outcome =
        .ok ⟨value?, c.controllerName, c.route, requestOf c reply.exitRequested⟩ ∧
      (s.received (some line)).service = { after with lastResult? := value? } := by
  obtain ⟨before, events, received⟩ := h.received_eq
  rw [received, conclude, ok]
  exact ⟨rfl, rfl⟩

/-- The handler of the command is given the last result that the line found and the listings of the
service, with the arguments that were bound and the instance of its controller. -/
theorem Invokes.reply_eq (h : s.Invokes line c reply after) :
    ∃ i captures arguments m handler, FirstAt line s.commands i c captures ∧
      c.bind captures s.registry = .ok arguments ∧ s.Calls c line arguments reply after ∧
      s.handler? c = some (m, handler) ∧
      reply = handler ⟨line, c.controllerName, c.route, s.lastResult?, s.listings⟩ arguments
        (m.current.start s.world).1 (m.current.start s.world).2 := by
  obtain ⟨_, first, bound, called⟩ := h
  obtain ⟨m, handler, found, same⟩ := called.reply_eq
  exact ⟨_, _, _, m, handler, first, bound, called, found, same⟩

end Invokes

/-- A dispatch without a call: the line is refused and nothing has changed. -/
structure Refused (s : Service ι σ ω) (d : Dispatch ι σ ω) : Prop where
  service : d.service = s
  outcome : ∃ error, d.outcome = .error error
  request : d.request? = none

theorem refused_or_invokes (s : Service ι σ ω) (line? : Option Text) :
    Refused s (s.received line?) ∨
      ∃ line c reply after, line? = some line ∧ s.Invokes line c reply after := by
  match line? with
  | none => exact .inl ⟨rfl, ⟨_, rfl⟩, rfl⟩
  | some [] => exact .inl ⟨rfl, ⟨_, rfl⟩, rfl⟩
  | some (first :: more) =>
    have nonempty : first :: more ≠ [] := List.cons_ne_nil first more
    rw [received_line nonempty, dispatch]
    cases chosen : firstMatch? (first :: more) s.commands with
    | none => exact .inl ⟨rfl, ⟨_, rfl⟩, rfl⟩
    | some pair =>
      obtain ⟨c, captures⟩ := pair
      dsimp only
      cases bound : c.bind captures s.registry with
      | error e => exact .inl ⟨rfl, ⟨_, rfl⟩, rfl⟩
      | ok arguments =>
        by_cases placed : s.Placed c
        · obtain ⟨i, firstAt⟩ := firstMatch?_eq_some_iff.1 chosen
          obtain ⟨reply, after, called⟩ := exists_call placed (first :: more) arguments
          exact .inr ⟨_, c, reply, after, rfl, .intro nonempty firstAt bound called⟩
        · have missing : s.handler? c = none := by simpa [Placed] using placed
          left
          simp only [invoke, missing, conclude, requestOf]
          exact ⟨rfl, ⟨_, rfl⟩, rfl⟩

def done (s : Service ι σ ω) : Act ι σ ω → Service ι σ ω
  | .register c => (s.register c).service
  | .addParser p => (s.addParser p).service
  | .listen listener => s.listen listener
  | .clearExit => s.clearExit
  | .update change => { s with world := change s.world }
  | .execute line? => (s.received line?).flagged

def after : Service ι σ ω → List (Act ι σ ω) → Service ι σ ω
  | s, [] => s
  | s, act :: more => (s.done act).after more

/-- An act and the service that it finds. -/
structure Moment (ι σ ω : Type) [HostTypes ι] where
  before : Service ι σ ω
  act : Act ι σ ω

def moments : Service ι σ ω → List (Act ι σ ω) → List (Moment ι σ ω)
  | _, [] => []
  | s, act :: more => ⟨s, act⟩ :: (s.done act).moments more

theorem act_of_mem_moments {s : Service ι σ ω} {acts : List (Act ι σ ω)} {m : Moment ι σ ω}
    (member : m ∈ s.moments acts) : m.act ∈ acts := by
  induction acts generalizing s with
  | nil => cases member
  | cons act acts ih =>
    rcases List.mem_cons.1 member with rfl | later
    · exact List.mem_cons_self
    · exact List.mem_cons_of_mem act (ih later)

def Moment.outcome? (m : Moment ι σ ω) : Option Outcome :=
  match m.act with
  | .execute line? => some (m.before.received line?).outcome
  | _ => none

def Moment.events (m : Moment ι σ ω) : List Event :=
  match m.act with
  | .register c => (m.before.register c).events
  | .addParser p => (m.before.addParser p).events
  | .execute line? => (m.before.received line?).reported
  | _ => []

/-- How the lines among some acts come out, the lines that listeners execute included. -/
def outcomes (s : Service ι σ ω) (acts : List (Act ι σ ω)) : List Outcome :=
  (s.moments acts).filterMap Moment.outcome?

def events (s : Service ι σ ω) (acts : List (Act ι σ ω)) : List Event :=
  (s.moments acts).flatMap Moment.events

section Append

variable (s : Service ι σ ω) (acts more : List (Act ι σ ω))

@[simp] theorem events_nil : s.events [] = [] := rfl

@[simp] theorem events_cons (act : Act ι σ ω) :
    s.events (act :: acts) = Moment.events ⟨s, act⟩ ++ (s.done act).events acts := rfl

@[simp] theorem after_append : s.after (acts ++ more) = (s.after acts).after more := by
  induction acts generalizing s with
  | nil => rfl
  | cons act acts ih => exact ih (s.done act)

@[simp] theorem moments_append :
    s.moments (acts ++ more) = s.moments acts ++ (s.after acts).moments more := by
  induction acts generalizing s with
  | nil => rfl
  | cons act acts ih => exact congrArg (⟨s, act⟩ :: ·) (ih (s.done act))

@[simp] theorem outcomes_append :
    s.outcomes (acts ++ more) = s.outcomes acts ++ (s.after acts).outcomes more := by
  simp [outcomes]

@[simp] theorem events_append :
    s.events (acts ++ more) = s.events acts ++ (s.after acts).events more := by
  simp [events]

end Append

/-! Acts lead through the states of use, and to all of them. -/

theorem reaches_done (s : Service ι σ ω) (act : Act ι σ ω) : Reaches s (s.done act) := by
  cases act with
  | register c => exact .single (.register s c)
  | addParser p => exact .single (.addParser s p)
  | listen listener => exact .single (.listen s listener)
  | clearExit => exact .single (.clearExit s)
  | update change => exact .single (.update s _)
  | execute line? =>
    match line? with
    | none => exact .refl
    | some [] => exact .refl
    | some (c :: line) =>
      have nonempty : c :: line ≠ [] := List.cons_ne_nil c line
      rw [done, received_line nonempty]
      cases asked : (s.dispatch (c :: line)).request? with
      | none => exact flagged_quiet asked ▸ .single (.dispatched nonempty asked)
      | some request => exact flagged_asked asked ▸ .single (.signalled nonempty asked)

theorem reaches_after (s : Service ι σ ω) (acts : List (Act ι σ ω)) : Reaches s (s.after acts) := by
  induction acts generalizing s with
  | nil => exact .refl
  | cons act acts ih => exact (reaches_done s act).trans (ih (s.done act))

/-- A line to execute, listeners to tell of an exit, or a reaction to perform. -/
inductive Task (ι σ ω : Type) [HostTypes ι] where
  | line (line? : Option Text)
  | tell (request : ExitRequest) (listeners : List (Listener ι σ ω))
  | react (reaction : Reaction ι σ ω)

/-- A task comes to its end, and these are the acts done for it, in order. -/
inductive Does : Task ι σ ω → Service ι σ ω → List (Act ι σ ω) → Service ι σ ω → Prop
  | quiet {s : Service ι σ ω} {line? : Option Text} :
      (s.received line?).request? = none →
      Does (.line line?) s [.execute line?] (s.received line?).service
  | signalled {s t : Service ι σ ω} {line? : Option Text} {request : ExitRequest}
      {acts : List (Act ι σ ω)} :
      (s.received line?).request? = some request →
      Does (.tell request (s.received line?).service.listeners)
        { (s.received line?).service with exitRequested := true } acts t →
      Does (.line line?) s (.execute line? :: acts) t
  | told {s : Service ι σ ω} {request : ExitRequest} : Does (.tell request []) s [] s
  | tell {s t u : Service ι σ ω} {request : ExitRequest} {listener : Listener ι σ ω}
      {more : List (Listener ι σ ω)} {acts later : List (Act ι σ ω)} :
      Does (.react (listener request)) s acts t → Does (.tell request more) t later u →
      Does (.tell request (listener :: more)) s (acts ++ later) u
  | finished {s : Service ι σ ω} : Does (.react .done) s [] s
  | observe {s t : Service ι σ ω} {next : View → ω → Reaction ι σ ω}
      {acts : List (Act ι σ ω)} :
      Does (.react (next s.view s.world)) s acts t → Does (.react (.observe next)) s acts t
  | update {s t : Service ι σ ω} {change : ω → ω} {next : Reaction ι σ ω}
      {acts : List (Act ι σ ω)} :
      Does (.react next) (s.done (.update change)) acts t →
      Does (.react (.update change next)) s (.update change :: acts) t
  | register {s t : Service ι σ ω} {c : Controller ι σ ω}
      {next : Except RegistrationError Unit → Reaction ι σ ω} {acts : List (Act ι σ ω)} :
      Does (.react (next (s.register c).result)) (s.done (.register c)) acts t →
      Does (.react (.register c next)) s (.register c :: acts) t
  | addParser {s t : Service ι σ ω} {p : Parser ι}
      {next : Except RegistrationError Unit → Reaction ι σ ω} {acts : List (Act ι σ ω)} :
      Does (.react (next (s.addParser p).result)) (s.done (.addParser p)) acts t →
      Does (.react (.addParser p next)) s (.addParser p :: acts) t
  | clearExit {s t : Service ι σ ω} {next : Reaction ι σ ω} {acts : List (Act ι σ ω)} :
      Does (.react next) s.clearExit acts t →
      Does (.react (.clearExit next)) s (.clearExit :: acts) t
  | listen {s t : Service ι σ ω} {listener : Listener ι σ ω} {next : Reaction ι σ ω}
      {acts : List (Act ι σ ω)} :
      Does (.react next) (s.listen listener) acts t →
      Does (.react (.listen listener next)) s (.listen listener :: acts) t
  | execute {s t u : Service ι σ ω} {line? : Option Text} {next : Outcome → Reaction ι σ ω}
      {acts later : List (Act ι σ ω)} :
      Does (.line line?) s acts t →
      Does (.react (next (s.received line?).outcome)) t later u →
      Does (.react (.execute line? next)) s (acts ++ later) u

theorem Does.eq_after {task : Task ι σ ω} {s t : Service ι σ ω} {acts : List (Act ι σ ω)}
    (h : Does task s acts t) : t = s.after acts := by
  induction h with
  | quiet quiet => exact (flagged_quiet quiet).symm
  | signalled asked _ ih => rw [after, done, flagged_asked asked, ← ih]
  | told => rfl
  | tell _ _ ih later => rw [after_append, ← ih, ← later]
  | finished => rfl
  | observe _ ih => exact ih
  | update _ ih => exact ih
  | register _ ih => exact ih
  | addParser _ ih => exact ih
  | clearExit _ ih => exact ih
  | listen _ ih => exact ih
  | execute _ _ ih later => rw [after_append, ← ih, ← later]

/-- The line comes first, and what the listeners do comes after it. -/
theorem Does.line_cases {line? : Option Text} {s t : Service ι σ ω} {acts : List (Act ι σ ω)}
    (h : Does (.line line?) s acts t) :
    ((s.received line?).request? = none ∧ acts = [.execute line?] ∧
      t = (s.received line?).service) ∨
    ∃ request more, (s.received line?).request? = some request ∧ acts = .execute line? :: more ∧
      Does (.tell request (s.received line?).service.listeners)
        { (s.received line?).service with exitRequested := true } more t := by
  cases h with
  | quiet quiet => exact .inl ⟨quiet, rfl, rfl⟩
  | signalled asked told => exact .inr ⟨_, _, asked, rfl, told⟩

/-! Execution within a depth answers with what is done, ... -/

/-- An executor that answers only when the line's task comes to its end. -/
def Traced (execute : Executor ι σ ω) : Prop :=
  ∀ {s : Service ι σ ω} {line? : Option Text} {e : Executed ι σ ω}, execute s line? = some e →
    ∃ acts, Does (.line line?) s acts e.service ∧ e.outcome = (s.received line?).outcome ∧
      e.events = s.events acts

section Traced

variable {execute : Executor ι σ ω} {s last : Service ι σ ω} {events : List Event}

theorem perform_traced (traced : Traced execute) {reaction : Reaction ι σ ω}
    (h : perform execute reaction s = some (last, events)) :
    ∃ acts, Does (.react reaction) s acts last ∧ events = s.events acts := by
  induction reaction generalizing s events with
  | done => cases h; exact ⟨[], .finished, rfl⟩
  | observe next ih =>
    obtain ⟨acts, does, same⟩ := ih _ _ h
    exact ⟨acts, .observe does, same⟩
  | update change next ih =>
    obtain ⟨acts, does, same⟩ := ih h
    exact ⟨_, .update does, same⟩
  | register c next ih =>
    obtain ⟨⟨final, later⟩, performed, same⟩ := Option.map_eq_some_iff.1 h
    cases same
    obtain ⟨acts, does, reported⟩ := ih _ performed
    exact ⟨_, .register does, by rw [reported]; rfl⟩
  | addParser p next ih =>
    obtain ⟨⟨final, later⟩, performed, same⟩ := Option.map_eq_some_iff.1 h
    cases same
    obtain ⟨acts, does, reported⟩ := ih _ performed
    exact ⟨_, .addParser does, by rw [reported]; rfl⟩
  | clearExit next ih =>
    obtain ⟨acts, does, same⟩ := ih h
    exact ⟨_, .clearExit does, same⟩
  | listen listener next _ ih =>
    obtain ⟨acts, does, same⟩ := ih h
    exact ⟨_, .listen does, same⟩
  | execute line? next ih =>
    rw [perform] at h
    cases executed : execute s line? with
    | none => simp [executed] at h
    | some e =>
      simp only [executed, Option.map_eq_some_iff] at h
      obtain ⟨⟨final, later⟩, performed, same⟩ := h
      cases same
      obtain ⟨acts, does, outcome, reported⟩ := traced executed
      obtain ⟨more, rest, alsoReported⟩ := ih _ performed
      refine ⟨acts ++ more, .execute does (outcome ▸ rest), ?_⟩
      rw [events_append, ← does.eq_after, reported, alsoReported]

theorem notify_traced (traced : Traced execute) {request : ExitRequest}
    {listeners : List (Listener ι σ ω)}
    (h : notify execute request listeners s = some (last, events)) :
    ∃ acts, Does (.tell request listeners) s acts last ∧ events = s.events acts := by
  induction listeners generalizing s events with
  | nil => cases h; exact ⟨[], .told, rfl⟩
  | cons listener more ih =>
    rw [notify] at h
    cases performed : perform execute (listener request) s with
    | none => simp [performed] at h
    | some pair =>
      simp only [performed, Option.map_eq_some_iff] at h
      obtain ⟨⟨final, later⟩, notified, same⟩ := h
      cases same
      obtain ⟨acts, does, reported⟩ := perform_traced traced performed
      obtain ⟨rest, told, alsoReported⟩ := ih notified
      refine ⟨acts ++ rest, .tell does told, ?_⟩
      rw [events_append, ← does.eq_after, reported, alsoReported]

theorem executeUsing_traced (traced : Traced execute) : Traced (executeUsing execute) := by
  intro s line? e h
  rw [executeUsing_eq, signal] at h
  cases asked : (s.received line?).request? with
  | none =>
    rw [asked] at h
    cases h
    exact ⟨_, .quiet asked, rfl, by simp [Moment.events, reported_quiet asked]⟩
  | some request =>
    simp only [asked, Option.map_eq_some_iff] at h
    obtain ⟨⟨final, later⟩, notified, rfl⟩ := h
    obtain ⟨acts, told, reported⟩ := notify_traced traced notified
    refine ⟨_, .signalled asked told, rfl, ?_⟩
    simp [Moment.events, reported_asked asked, done, flagged_asked asked, reported]

theorem nested_traced (depth : Nat) : Traced (nested depth : Executor ι σ ω) := by
  induction depth with
  | zero =>
    intro s line? e h
    cases h
  | succ depth ih =>
    change Traced (executeWithin depth)
    rw [executeWithin_eq]
    exact executeUsing_traced ih

theorem executeWithin_traced (depth : Nat) : Traced (executeWithin depth : Executor ι σ ω) :=
  nested_traced (depth + 1)

end Traced

/-! ... and every task that comes to its end is answered within some depth. -/

/-- The task is answered within a depth, as the acts say. -/
def Task.Answered (depth : Nat) (task : Task ι σ ω) (s : Service ι σ ω) (acts : List (Act ι σ ω))
    (t : Service ι σ ω) : Prop :=
  match task with
  | .line line? =>
    executeWithin depth s line? = some ⟨t, (s.received line?).outcome, s.events acts⟩
  | .tell request listeners =>
    notify (nested depth) request listeners s = some (t, s.events acts)
  | .react reaction => perform (nested depth) reaction s = some (t, s.events acts)

theorem Does.answered {task : Task ι σ ω} {s t : Service ι σ ω} {acts : List (Act ι σ ω)}
    (h : Does task s acts t) : ∃ enough, ∀ depth ≥ enough, task.Answered depth s acts t := by
  induction h with
  | quiet quiet =>
    refine ⟨0, fun depth _ => ?_⟩
    simp [Task.Answered, executeWithin_eq, executeUsing_eq, signal, quiet, Moment.events,
      reported_quiet quiet]
  | signalled asked _ ih =>
    obtain ⟨enough, told⟩ := ih
    refine ⟨enough, fun depth deep => ?_⟩
    have notified := told depth deep
    simp only [Task.Answered] at notified
    simp [Task.Answered, executeWithin_eq, executeUsing_eq, signal, asked, notified, Moment.events,
      reported_asked asked, done, flagged_asked asked]
  | told => exact ⟨0, fun depth _ => rfl⟩
  | tell does _ ih later =>
    obtain ⟨n, performed⟩ := ih
    obtain ⟨m, told⟩ := later
    refine ⟨max n m, fun depth deep => ?_⟩
    have here := performed depth (Nat.le_trans (Nat.le_max_left n m) deep)
    have rest := told depth (Nat.le_trans (Nat.le_max_right n m) deep)
    simp only [Task.Answered] at here rest ⊢
    rw [events_append, ← does.eq_after]
    simp [notify, here, rest]
  | finished => exact ⟨0, fun depth _ => rfl⟩
  | observe _ ih => exact ih
  | update _ ih => exact ih
  | register _ ih =>
    obtain ⟨enough, performed⟩ := ih
    refine ⟨enough, fun depth deep => ?_⟩
    exact congrArg (Option.map _) (performed depth deep)
  | addParser _ ih =>
    obtain ⟨enough, performed⟩ := ih
    refine ⟨enough, fun depth deep => ?_⟩
    exact congrArg (Option.map _) (performed depth deep)
  | clearExit _ ih => exact ih
  | listen _ ih => exact ih
  | execute does _ ih later =>
    obtain ⟨n, executed⟩ := ih
    obtain ⟨m, performed⟩ := later
    refine ⟨max (n + 1) m, fun depth deep => ?_⟩
    -- A line that a listener executes has one level less to nest in.
    obtain ⟨less, rfl⟩ : ∃ less, depth = less + 1 := ⟨depth - 1, by omega⟩
    have here := executed less (by omega)
    have rest := performed (less + 1) (by omega)
    simp only [Task.Answered] at here rest ⊢
    rw [events_append, ← does.eq_after]
    rw [nested] at rest ⊢
    simp [perform, here, rest]

/-- What an execution does: the line, then the acts of the listeners. -/
theorem executeWithin_acts {depth : Nat} {s : Service ι σ ω} {line? : Option Text}
    {e : Executed ι σ ω} (executed : executeWithin depth s line? = some e) :
    ∃ more, Does (.line line?) s (.execute line? :: more) e.service ∧
      e.service = s.after (.execute line? :: more) ∧
      e.outcome = (s.received line?).outcome ∧ e.events = s.events (.execute line? :: more) := by
  obtain ⟨acts, does, outcome, reported⟩ := executeWithin_traced depth executed
  rcases does.line_cases with ⟨_, rfl, _⟩ | ⟨request, more, _, rfl, _⟩
  · exact ⟨[], does, does.eq_after, outcome, reported⟩
  · exact ⟨more, does, does.eq_after, outcome, reported⟩

theorem Reachable.execute {s : Service ι σ ω} {depth : Nat} {line? : Option Text}
    {e : Executed ι σ ω} (h : Reachable s) (executed : executeWithin depth s line? = some e) :
    Reachable e.service := by
  obtain ⟨world, history⟩ := h
  obtain ⟨more, _, same, _⟩ := executeWithin_acts executed
  exact ⟨world, history.trans (same ▸ reaches_after s _)⟩

/-- Executions are the lines whose tasks come to an end. -/
theorem executes_iff {s t : Service ι σ ω} {line? : Option Text} :
    (∃ depth outcome events, executeWithin depth s line? = some ⟨t, outcome, events⟩) ↔
      ∃ acts, Does (.line line?) s acts t := by
  constructor
  · rintro ⟨depth, outcome, events, executed⟩
    obtain ⟨acts, does, _⟩ := executeWithin_traced depth executed
    exact ⟨acts, does⟩
  · rintro ⟨acts, does⟩
    obtain ⟨enough, answered⟩ := does.answered
    exact ⟨enough, _, _, answered enough (Nat.le_refl enough)⟩

/-- What a bounded computation answers under every bound that is great enough. -/
def Settles {β : Type} (f : Nat → Option β) (answer : β) : Prop :=
  ∃ enough, ∀ depth ≥ enough, f depth = some answer

theorem Settles.unique {β : Type} {f : Nat → Option β} {x y : β} (hx : Settles f x)
    (hy : Settles f y) : x = y := by
  obtain ⟨n, atX⟩ := hx
  obtain ⟨m, atY⟩ := hy
  have here := (atX (max n m) (Nat.le_max_left n m)).symm.trans
    (atY (max n m) (Nat.le_max_right n m))
  exact Option.some.inj here

theorem executeWithin_settles {depth : Nat} {s : Service ι σ ω} {line? : Option Text}
    {e : Executed ι σ ω} (executed : executeWithin depth s line? = some e) :
    Settles (fun depth => executeWithin depth s line?) e := by
  obtain ⟨acts, does, outcome, reported⟩ := executeWithin_traced depth executed
  obtain ⟨enough, answered⟩ := does.answered
  refine ⟨enough, fun depth deep => (answered depth deep).trans ?_⟩
  rw [← outcome, ← reported]

end Phrasebook.Service
