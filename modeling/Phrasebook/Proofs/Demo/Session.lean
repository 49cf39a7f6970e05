import Phrasebook.Demo.Controllers
import Phrasebook.Proofs.Service.Instances

/-! The demo while lines are executed, one after the other. Its controllers, routes and parser stay
as they were registered. No handler leaves anything behind in an instance, so each starts from the
same one, and only the stage, the last result and the exit flag change from line to line. -/
namespace Phrasebook.Demo

open Service

def staff : List (Member HostType Presence Stage) :=
  [⟨"HelpController".toList, .shared ⟨false⟩, [showCommands]⟩,
    ⟨"GreetingController".toList, .shared ⟨false⟩, [hello, bye]⟩,
    ⟨"PasswordController".toList, .shared ⟨false⟩, [showPassword, hidePassword]⟩,
    ⟨"AgeController".toList, .perCommand newcomer, [setAges]⟩]

def agesLead : Text := "Set ages: ".toList

def agesRoute : Text := "Set ages: \x7bcollection\x7d".toList

def agesCommand : Command HostType where
  controller := 3
  controllerName := "AgeController".toList
  handler := 0
  template := ⟨agesRoute, [.literal agesLead, .placeholder "collection".toList]⟩
  caseRule := .ignoring
  description? := none
  params := [⟨"collection".toList, .required agesType⟩]

/-- The commands of the shared controllers. They were registered first. -/
def sharedCommands : List (Command HostType) := (service (.scripted [])).commands.dropLast

/-- A demo that has been set up and may have executed lines. -/
structure Running (s : DemoService) : Prop where
  members : s.members = staff
  commands : s.commands = sharedCommands ++ [agesCommand]
  registry : s.registry = ⟨[agesParser]⟩
  listeners : s.listeners = []

theorem service_eq (secrets : Secrets) :
    service secrets = ⟨staff, (service (.scripted [])).typeNames, sharedCommands ++ [agesCommand],
      ⟨[agesParser]⟩, none, false, [], ⟨[], secrets⟩⟩ := rfl

theorem running_service (secrets : Secrets) : Running (service secrets) := by
  rw [service_eq]
  exact ⟨rfl, rfl, rfl, rfl⟩

theorem shared_of_mem : ∀ c ∈ sharedCommands, c.controller < 3 ∧ c.route ≠ agesRoute := by
  decide +kernel

def sharedHandlers : List DemoHandler := [showCommands, hello, bye, showPassword, hidePassword]

section Replies

variable (context : Context) (arguments : Arguments HostType) (state : Presence) (stage : Stage)

theorem hello_eq : hello context arguments state stage =
    match arguments.required "name".toList textType with
    | .error e => ⟨state, stage, false, .error e⟩
    | .ok name => ⟨state, stage.print s!"Hello there, {Text.string name}!", false, .ok none⟩ := by
  simp only [hello, Handler.answering]
  cases arguments.required "name".toList textType <;> rfl

theorem bye_eq : bye context arguments state stage =
    match arguments.required "name".toList textType with
    | .error e => ⟨state, stage, false, .error e⟩
    | .ok name => ⟨state, stage.print s!"Goodbye, {Text.string name}. I'm sorry you have to leave.",
        true, .ok none⟩ := by
  simp only [bye, Handler.answering]
  cases arguments.required "name".toList textType <;> rfl

theorem withSecret_eq (shown : Text → String) (result : Text → Json) :
    withSecret shown result context arguments state stage =
      match stage.readSecret passwordPrompt with
      | (.error e, rest) => ⟨state, rest, false, .error e⟩
      | (.ok password, rest) =>
        ⟨state, rest.print (shown password), false, .ok (result password).nonNull?⟩ := by
  simp only [withSecret, Handler.answering]
  rcases stage.readSecret passwordPrompt with ⟨_ | _, _⟩ <;> rfl

/-- The handlers of shared instances leave their instance as it is, and answer with nothing, a text
or an integer, if they do not fail. -/
theorem shared_reply {handler : DemoHandler} (shared : handler ∈ sharedHandlers) :
    (handler context arguments state stage).state = state ∧
    ∀ value?, (handler context arguments state stage).result = .ok value? →
      value? = none ∨ (∃ t, value? = some (.text t)) ∨ ∃ n, value? = some (.integer n) := by
  simp only [sharedHandlers, List.mem_cons, List.not_mem_nil, or_false] at shared
  rcases shared with rfl | rfl | rfl | rfl | rfl
  · exact ⟨rfl, fun _ ok => .inl (Except.ok.inj ok).symm⟩
  · rw [hello_eq]
    cases arguments.required "name".toList textType with
    | error failure => exact ⟨rfl, nofun⟩
    | ok name => exact ⟨rfl, fun _ ok => .inl (Except.ok.inj ok).symm⟩
  · rw [bye_eq]
    cases arguments.required "name".toList textType with
    | error failure => exact ⟨rfl, nofun⟩
    | ok name => exact ⟨rfl, fun _ ok => .inl (Except.ok.inj ok).symm⟩
  · rw [showPassword, withSecret_eq]
    rcases stage.readSecret passwordPrompt with ⟨failure | password, rest⟩
    · exact ⟨rfl, nofun⟩
    · exact ⟨rfl, fun _ ok => .inr (.inl ⟨password, (Except.ok.inj ok).symm⟩)⟩
  · rw [hidePassword, withSecret_eq]
    rcases stage.readSecret passwordPrompt with ⟨failure | password, rest⟩
    · exact ⟨rfl, nofun⟩
    · exact ⟨rfl, fun _ ok => .inr (.inr ⟨password.length, (Except.ok.inj ok).symm⟩)⟩

end Replies

theorem staff_shared {place : Nat} {m : Member HostType Presence Stage} (low : place < 3)
    (there : staff[place]? = some m) :
    m.current = .shared ⟨false⟩ ∧ ∀ handler ∈ m.handlers, handler ∈ sharedHandlers := by
  obtain rfl | rfl | rfl : place = 0 ∨ place = 1 ∨ place = 2 := by omega
  all_goals
    cases there
    exact ⟨rfl, by simp [sharedHandlers]⟩

section Step

variable {s : DemoService} {line? : Option Text} {k : Call HostType Presence Stage}

theorem Running.call_cases (running : Running s) (called : s.call? line? = some k) :
    (k.command = agesCommand ∧ k.member.current = .perCommand newcomer ∧ k.handler = setAges) ∨
    (k.command.route ≠ agesRoute ∧ k.member.current = .shared ⟨false⟩ ∧
      k.handler ∈ sharedHandlers) := by
  obtain ⟨_, _, ⟨i, captures, first, _⟩, found⟩ := call?_eq_some_iff.1 called
  obtain ⟨member, atPlace⟩ := handler?_eq_some_iff.1 found
  have known : k.command ∈ sharedCommands ++ [agesCommand] :=
    running.commands ▸ List.mem_of_getElem? first.here
  rw [running.members] at member
  rcases List.mem_append.1 known with shared | ages
  · obtain ⟨low, route⟩ := shared_of_mem _ shared
    obtain ⟨current, handlers⟩ := staff_shared low member
    exact .inr ⟨route, current, handlers _ (List.mem_of_getElem? atPlace)⟩
  · have command := List.mem_singleton.1 ages
    rw [command] at member atPlace
    have owner := Option.some.inj member
    rw [← owner] at atPlace ⊢
    exact .inl ⟨command, rfl, (Option.some.inj atPlace).symm⟩

/-- The reply to a call. Whatever the handler, the instance that it gets has announced nothing. -/
def replied (s : DemoService) (k : Call HostType Presence Stage) :
    Reply Presence Stage (Option Json) :=
  k.reply s ⟨false⟩ s.world

/-- A line whose handler was called: what came of it, before the exit flag is raised. -/
structure Handled (s : DemoService) (line? : Option Text) (k : Call HostType Presence Stage)
    (d : Dispatch HostType Presence Stage) : Prop where
  called : s.call? line? = some k
  service : d.service =
    { s with world := (replied s k).world, lastResult? := s.resultAfter (replied s k) }
  request : d.request? = requestOf k.command (replied s k).exitRequested
  succeeded : ∀ value?, (replied s k).result = .ok value? →
    d.outcome = .ok ⟨value?, k.command.controllerName, k.command.route,
      requestOf k.command (replied s k).exitRequested⟩
  failed : ∀ failure, (replied s k).result = .error failure →
    d.outcome = .error (.handler k.line failure)

theorem Running.invokes (running : Running s) (called : s.call? line? = some k) :
    ∃ after, s.Invokes k.line k.command (replied s k) after := by
  obtain ⟨_, nonempty, ⟨i, captures, first, bound⟩, found⟩ := call?_eq_some_iff.1 called
  obtain ⟨member, atPlace⟩ := handler?_eq_some_iff.1 found
  rcases running.call_cases called with ⟨_, current, _⟩ | ⟨_, current, _⟩
  · exact ⟨_, .intro nonempty first bound (.perCommand member atPlace current rfl)⟩
  · exact ⟨_, .intro nonempty first bound (.shared member atPlace current rfl)⟩

theorem Running.received_service (running : Running s) (called : s.call? line? = some k) :
    (s.received line?).service =
      { s with world := (replied s k).world, lastResult? := s.resultAfter (replied s k) } := by
  rcases running.call_cases called with ⟨_, current, _⟩ | ⟨_, current, shared⟩
  · exact received_perCommand called current
  · obtain ⟨inside, here⟩ := List.getElem?_eq_some_iff.1 (call?_member called)
    have unchanged : k.works s ⟨false⟩ = ⟨false⟩ := (shared_reply _ _ _ _ shared).1
    rw [received_shared called current, unchanged, ← current, ← here, List.set_getElem_self]
    rfl

/-- One line: it is refused and nothing has changed, or its handler is called, and then at most the
stage and the last result are different. -/
theorem Running.step (running : Running s) (line? : Option Text) :
    Refused s (s.received line?) ∨ ∃ k, Handled s line? k (s.received line?) := by
  rcases s.refused_or_invokes line? with refused | ⟨line, c, reply, after, rfl, invokes⟩
  · exact .inl refused
  obtain ⟨k, called, _, _⟩ := invokes_iff_call.1 invokes
  cases Option.some.inj (call?_eq_some_iff.1 called).1
  obtain ⟨after, invokes⟩ := running.invokes called
  exact .inr ⟨k, called, running.received_service called, invokes.request?_eq,
    fun _ ok => (invokes.of_ok ok).1, fun _ failed => (invokes.of_error failed).1⟩

theorem Running.received (running : Running s) (line? : Option Text) :
    Running (s.received line?).flagged := by
  obtain ⟨up, flagged⟩ := (s.received line?).flagged_frame
  rw [flagged]
  rcases running.step line? with refused | ⟨k, handled⟩
  · rw [refused.service]
    exact ⟨running.members, running.commands, running.registry, running.listeners⟩
  · rw [handled.service]
    exact ⟨running.members, running.commands, running.registry, running.listeners⟩

/-- Nobody listens, so every line is answered, and nothing comes after the signal. -/
theorem Running.executeWithin_reported (running : Running s) (depth : Nat)
    (line? : Option Text) : executeWithin depth s line? =
      some ⟨(s.received line?).flagged, (s.received line?).outcome,
        (s.received line?).reported⟩ := by
  have nobody : (s.received line?).service.listeners = [] :=
    (received_keeps s line?).listeners.trans running.listeners
  rw [Service.executeWithin_eq, executeUsing_eq, signal]
  cases asked : (s.received line?).request? with
  | none => rw [flagged_quiet asked, reported_quiet asked]
  | some request =>
    rw [flagged_asked asked, reported_asked asked, nobody]
    rfl

theorem Running.executeWithin_eq (running : Running s) (depth : Nat) (line? : Option Text) :
    ∃ events, executeWithin depth s line? =
      some ⟨(s.received line?).flagged, (s.received line?).outcome, events⟩ :=
  ⟨_, running.executeWithin_reported depth line?⟩

end Step

/-- A line that was executed: the demo before it and what came of it. -/
structure Exchange where
  line? : Option Text
  before : DemoService
  executed : Executed HostType Presence Stage

/-- Executes lines, one after the other. -/
def exchanges (depth : Nat) : DemoService → List (Option Text) → Option (List Exchange)
  | _, [] => some []
  | s, line? :: more =>
    match executeWithin depth s line? with
    | none => none
    | some e => (exchanges depth e.service more).map (⟨line?, s, e⟩ :: ·)

section Exchanges

variable {depth : Nat} {s : DemoService} {lines : List (Option Text)} {xs : List Exchange}

theorem exchanges_cons_iff {line? : Option Text} :
    exchanges depth s (line? :: lines) = some xs ↔ ∃ e more, executeWithin depth s line? = some e ∧
      exchanges depth e.service lines = some more ∧ xs = ⟨line?, s, e⟩ :: more := by
  rw [exchanges]
  cases executeWithin depth s line? with
  | none => simp
  | some e => simp [eq_comm (a := xs)]

/-- Every line of a session is answered. -/
theorem Running.exists_exchanges (running : Running s) (depth : Nat) (lines : List (Option Text)) :
    ∃ xs, exchanges depth s lines = some xs ∧ xs.map (·.line?) = lines := by
  induction lines generalizing s with
  | nil => exact ⟨[], rfl, rfl⟩
  | cons line? lines ih =>
    obtain ⟨events, executed⟩ := running.executeWithin_eq depth line?
    obtain ⟨more, exchanged, same⟩ := ih (running.received line?)
    exact ⟨_, exchanges_cons_iff.2 ⟨_, more, executed, exchanged, rfl⟩, congrArg (line? :: ·) same⟩

/-- What every line keeps true of the exchanges before it, and of the demo, is true at each of them.
-/
theorem exchanges_keep {P : List Exchange → DemoService → Prop}
    (step : ∀ {past s line? e}, P past s → executeWithin depth s line? = some e →
      P (past ++ [⟨line?, s, e⟩]) e.service)
    {past earlier later : List Exchange} {x : Exchange} (now : P past s)
    (exchanged : exchanges depth s lines = some xs) (split : xs = earlier ++ x :: later) :
    P (past ++ earlier) x.before ∧ executeWithin depth x.before x.line? = some x.executed := by
  induction lines generalizing s past xs earlier with
  | nil =>
    cases exchanged
    simp at split
  | cons line? lines ih =>
    obtain ⟨e, more, executed, rest, rfl⟩ := exchanges_cons_iff.1 exchanged
    cases earlier with
    | nil =>
      cases split
      rw [List.append_nil]
      exact ⟨now, executed⟩
    | cons first earlier =>
      obtain ⟨first, later⟩ := List.cons.inj split
      simpa [first] using ih (step now executed) rest later

end Exchanges

end Phrasebook.Demo
