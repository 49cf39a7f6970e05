import Phrasebook.Demo.CommandLine
import Phrasebook.Proofs.Demo.Session
import Phrasebook.Proofs.Service.Loop

/-! The demo's two modes. Lines given as options are executed by a loop of their own, which looks at
the exit flag after a line and not before it. It comes to the same as the command loop over these
lines. -/
namespace Phrasebook.Demo

open Service

/-- A source of lines that are already there. -/
def given : Text → Except InputError (Option Text) := Input.each Input.scripted

theorem run_up {s : DemoService} (up : s.exitRequested = true) (depth : Nat) (lines : List Text) :
    s.runWithin depth given lines = some ⟨s, .ok (), [], lines, []⟩ := by
  cases lines with
  | nil => simp only [runWithin, up, if_true]
  | cons line more => simp only [runWithin, up, if_true]

theorem run_down {s : DemoService} (down : s.exitRequested = false) (depth : Nat) (line : Text)
    (more : List Text) :
    s.runWithin depth given (line :: more) = (executeWithin depth s (some line)).bind fun e =>
      (e.service.runWithin depth given more).map (Run.after e) := by
  rw [runWithin, if_neg (by simp [down])]
  simp only [given, Input.each, Input.scripted, Except.map]
  cases executeWithin depth s (some line) <;> rfl

/-- Lines given as options are carried out, with these outcomes, up to the first that leaves the
flag up, that one included, or up to the last. -/
inductive CarriesOut :
    DemoService → List Text → List Text → List Outcome → DemoService → Prop
  | finished {s : DemoService} : CarriesOut s [] [] [] s
  | stopped {s : DemoService} {line : Text} {more : List Text}
      {e : Executed HostType Presence Stage} :
      executeWithin depth s (some line) = some e → e.service.exitRequested = true →
      CarriesOut s (line :: more) [line] [e.outcome] e.service
  | next {s t : DemoService} {line : Text} {more done : List Text} {outcomes : List Outcome}
      {e : Executed HostType Presence Stage} :
      executeWithin depth s (some line) = some e → e.service.exitRequested = false →
      CarriesOut e.service more done outcomes t →
      CarriesOut s (line :: more) (line :: done) (e.outcome :: outcomes) t

/-- The errors are those of the lines that fail. -/
theorem CarriesOut.executeLines_eq {s t : DemoService} {lines done : List Text}
    {outcomes : List Outcome} (h : CarriesOut s lines done outcomes t) :
    executeLines s lines = some (t, outcomes.filterMap failure?) := by
  induction h with
  | finished => rfl
  | @stopped _ _ _ e executed up =>
    rw [executeLines, executed]
    cases outcome : e.outcome <;> simp [up, failure?, outcome]
  | @next _ _ _ _ _ _ e executed down _ ih =>
    rw [executeLines, executed]
    cases outcome : e.outcome <;> simp [down, failure?, outcome, ih, List.filterMap_cons]

/-- With the flag down at the start it is the same to look at it after each line as to look at it
before the next. -/
theorem carriesOut_of_run {s : DemoService} {lines : List Text}
    {r : Run HostType Presence Stage InputError Text} (down : s.exitRequested = false)
    (answered : s.runWithin depth given lines = some r) :
    ∃ done outcomes rest, CarriesOut s lines done outcomes r.service ∧
      Ran given s lines r done outcomes rest := by
  induction lines generalizing s r with
  | nil =>
    cases answered
    exact ⟨[], [], [], .finished, ran_nothing rfl rfl (.exhausted down)⟩
  | cons line more ih =>
    rw [run_down down] at answered
    obtain ⟨e, executed, answered⟩ := Option.bind_eq_some_iff.1 answered
    obtain ⟨later, afterwards, rfl⟩ := Option.map_eq_some_iff.1 answered
    cases flag : e.service.exitRequested with
    | true =>
      cases (run_up flag depth more).symm.trans afterwards
      have nothing : Ran given e.service more ⟨e.service, .ok (), [], more, []⟩ [] [] more :=
        ran_nothing rfl rfl (.flagged flag)
      exact ⟨[line], [e.outcome], more, .stopped executed flag, nothing.cons rfl down executed⟩
    | false =>
      obtain ⟨done, outcomes, rest, carried, ran⟩ := ih flag afterwards
      exact ⟨line :: done, e.outcome :: outcomes, rest, .next executed flag carried,
        ran.cons rfl down executed⟩

section Running

variable {s : DemoService} {lines done : List Text} {outcomes : List Outcome}

theorem Running.of_executed (running : Running s) {depth : Nat} {line? : Option Text}
    {e : Executed HostType Presence Stage} (executed : executeWithin depth s line? = some e) :
    e.service = (s.received line?).flagged ∧ Running e.service := by
  cases (running.executeWithin_reported depth line?).symm.trans executed
  exact ⟨rfl, running.received line?⟩

theorem Running.of_executes {t : DemoService} (running : Running s)
    (executes : Executes s done outcomes t) : Running t := by
  induction executes with
  | nil => exact running
  | cons executed _ ih => exact ih (running.of_executed executed).2

/-- The loop has an answer, and no depth is too small for it. -/
theorem Running.exists_run (running : Running s) (lines : List Text) :
    ∃ r, ∀ depth, s.runWithin depth given lines = some r := by
  induction lines generalizing s with
  | nil => exact ⟨_, fun _ => rfl⟩
  | cons line more ih =>
    cases flag : s.exitRequested with
    | true => exact ⟨_, fun depth => run_up flag depth (line :: more)⟩
    | false =>
      obtain ⟨r, answers⟩ := ih (running.received (some line))
      exact ⟨_, fun depth => by
        rw [run_down flag, running.executeWithin_reported, Option.bind_some, answers,
          Option.map_some]⟩

/-- Without listeners an exit that is asked for is all that raises the flag. -/
theorem Running.asksExit_iff (running : Running s) (down : s.exitRequested = false) {depth : Nat}
    {line? : Option Text} {e : Executed HostType Presence Stage}
    (executed : executeWithin depth s line? = some e) :
    e.service.exitRequested = true ↔ ∃ request, s.AsksExit line? request := by
  rw [(running.of_executed executed).1]
  simp only [← request?_eq_some_iff]
  cases asked : (s.received line?).request? with
  | none => simp [flagged_quiet asked, (received_keeps s line?).exitRequested, down]
  | some request => simp [flagged_asked asked]

end Running

/-- The line at a place among those that are executed asks for an exit, whether it succeeds or
fails. -/
def AsksAt (s : DemoService) (done : List Text) (outcomes : List Outcome) (place : Nat) : Prop :=
  ∃ line t request, done[place]? = some line ∧
    Executes s (done.take place) (outcomes.take place) t ∧ t.AsksExit (some line) request

/-- Of some lines all are executed up to the first that asks for an exit, that one included, or all
there are. -/
structure StopsAtExit (s : DemoService) (lines done : List Text) (outcomes : List Outcome)
    (rest : List Text) : Prop where
  split : lines = done ++ rest
  last : ∀ place, AsksAt s done outcomes place → place + 1 = done.length
  stopped : rest ≠ [] → ∃ place, AsksAt s done outcomes place

theorem given_injective : Function.Injective given := by
  intro x y same
  simpa [given, Input.each, Input.scripted, Except.map] using same

theorem rests_given {t : DemoService} {rest left : List Text} {result : Except InputError Unit}
    (rests : Rests given t rest result left) :
    left = rest ∧ result = .ok () ∧ (rest ≠ [] → t.exitRequested = true) := by
  cases rests with
  | flagged up => exact ⟨rfl, rfl, fun _ => up⟩
  | exhausted => exact ⟨rfl, rfl, fun some => absurd rfl some⟩
  | ended _ none => cases none
  | unreadable _ failed => cases failed

section Stops

variable {s : DemoService} {lines done rest : List Text} {outcomes : List Outcome}

theorem Running.asksAt_iff (running : Running s) {final t : DemoService} {place : Nat}
    {line : Text} {e : Executed HostType Presence Stage} {more : List (Act HostType Presence Stage)}
    (there : done[place]? = some line) (turn : Turn s done outcomes final place line t e more) :
    AsksAt s done outcomes place ↔ e.service.exitRequested = true := by
  obtain ⟨depth, executed⟩ := turn.executed
  rw [(running.of_executes turn.reached).asksExit_iff turn.down executed]
  constructor
  · rintro ⟨same, u, request, here, reached, asks⟩
    cases there.symm.trans here
    obtain ⟨_, rfl⟩ := reached.unique turn.reached
    exact ⟨request, asks⟩
  · rintro ⟨request, asks⟩
    exact ⟨line, t, request, there, turn.reached, asks⟩

variable {r : Run HostType Presence Stage InputError Text}

theorem Running.stopsAtExit (running : Running s) (down : s.exitRequested = false)
    (ran : Ran given s lines r done outcomes rest) :
    StopsAtExit s lines done outcomes rest ∧ r.left = rest ∧ r.result = .ok () := by
  obtain ⟨left, result, up⟩ := rests_given ran.rests
  obtain ⟨front, split, lined⟩ := ran.taken
  obtain rfl : front = done := given_injective.list_map lined
  refine ⟨⟨split, fun place asks => ?_, fun unread => ?_⟩, left, result⟩
  · obtain ⟨line, _, _, there, _⟩ := id asks
    obtain ⟨_, _, _, turn⟩ := ran.turns place line there
    exact turn.last ((running.asksAt_iff there turn).1 asks)
  · obtain rfl | ⟨earlier, line, rfl⟩ := front.eq_nil_or_concat'
    · -- Without any line the flag would still be down.
      have same := (ran.executed.unique .nil).2
      rw [same, down] at up
      exact absurd (up unread) Bool.false_ne_true
    · have there : (earlier ++ [line])[earlier.length]? = some line := by simp
      obtain ⟨_, e, _, turn⟩ := ran.turns earlier.length line there
      have final : e.service = r.service := by
        have remaining := turn.remaining
        rw [List.drop_eq_nil_of_le (by simp)] at remaining
        exact (remaining.unique .nil).2.symm
      exact ⟨earlier.length, (running.asksAt_iff there turn).2 (final ▸ up unread)⟩

/-- Some lines come to the same as options and as the input of the loop. -/
structure RunsAlike (s : DemoService) (lines : List Text)
    (r : Run HostType Presence Stage InputError Text) (done : List Text)
    (outcomes : List Outcome) (rest : List Text) : Prop where
  options : executeLines s lines = some (r.service, r.errors)
  carriedOut : CarriesOut s lines done outcomes r.service
  loop : ∀ depth, s.runWithin depth given lines = some r
  ran : Ran given s lines r done outcomes rest
  stops : StopsAtExit s lines done outcomes rest
  left : r.left = rest
  result : r.result = .ok ()

theorem Running.runsAlike (running : Running s) (down : s.exitRequested = false)
    (lines : List Text) : ∃ r done outcomes rest, RunsAlike s lines r done outcomes rest := by
  obtain ⟨r, answers⟩ := running.exists_run lines
  obtain ⟨done, outcomes, rest, carried, ran⟩ := carriesOut_of_run down (answers depth)
  obtain ⟨stops, left, result⟩ := running.stopsAtExit down ran
  have executed := carried.executeLines_eq
  rw [← ran.errors] at executed
  exact ⟨r, done, outcomes, rest, executed, carried, answers, ran, stops, left, result⟩

end Stops

/-! Every list of lines can be given. -/

/-- A line as it is given in an argument, with the option's letter before it. -/
def commandWord (line : Text) : Text := "-c=".toList ++ line

theorem readFrom_commandWords (o : Options) (lines : List Text) :
    Asked.readFrom o none (lines.map commandWord) =
      .run { o with commands := o.commands ++ lines } := by
  induction lines generalizing o with
  | nil => simp [Asked.readFrom]
  | cons line more ih =>
    have word : Asked.apply o (Asked.words (commandWord line)) =
        .ok ({ o with commands := o.commands ++ [line] }, none) := rfl
    rw [List.map_cons, Asked.readFrom, if_neg (by simp [commandWord, Asked.endOfOptions]), word]
    simp [ih]

theorem run_commandWords (lines : List Text) (input : Input.Bytes) :
    run (lines.map commandWord) input = runOptions .unattended { commands := lines } input := by
  have asked : Asked.ofArguments (lines.map commandWord) = .run { commands := lines } :=
    readFrom_commandWords {} lines
  rw [run, asked]

theorem down_service (secrets : Secrets) : (service secrets).exitRequested = false := by
  rw [service_eq]

/-- Lines given as options are executed as the command loop executes them: the same ones, up to the
first that asks for an exit, whether it succeeds or fails, with the same errors and the same demo at
the end, so with the same output. Each error is reported by a line with its kind and message and a
line for each cause. It does not matter what else the options say, what the input holds or where
passwords come from. -/
theorem options_run_as_loop {lines : List Text} (nonempty : lines ≠ []) (secrets : Secrets) :
    ∃ r done outcomes rest, RunsAlike (service secrets) lines r done outcomes rest ∧
      ∀ options input, options.commands = lines →
        runOptions secrets options input = some ⟨0, r.service.world.transcript,
          linesText (r.errors.flatMap fun e => s!"[ERROR: {e.kindName}] {e.message}" ::
            e.causes.map fun cause => s!"  caused by: {cause}")⟩ := by
  obtain ⟨r, done, outcomes, rest, alike⟩ :=
    (running_service secrets).runsAlike (down_service secrets) lines
  refine ⟨r, done, outcomes, rest, alike, fun options input same => ?_⟩
  rw [runOptions, if_neg (same ▸ nonempty), runCommands, same, alike.options]
  rfl

section Example

def farewell : List Text :=
  ["dance".toList, "say goodbye to Ada, please.".toList, "help".toList]

/-- The line that matches nothing is reported, and nothing is executed after the goodbye. -/
theorem farewell_stops : farewell ≠ [] ∧
    ∃ r, executeLines (service (.scripted [])) farewell = some (r.service, r.errors) ∧
      (service (.scripted [])).runWithin 0 given farewell = some r ∧
      r.errors = [.unknownCommand "dance".toList] ∧ r.left = ["help".toList] ∧
      r.service.world.lines = ["Goodbye, Ada. I'm sorry you have to leave."] ∧
      ∀ input, runOptions (.scripted []) { commands := farewell } input =
        some ⟨0, r.service.world.transcript,
          "[ERROR: UnknownCommand] no route matched the input\n"⟩ := by
  have nonempty : farewell ≠ [] := List.cons_ne_nil _ _
  obtain ⟨r, _, _, _, alike, printed⟩ := options_run_as_loop nonempty (.scripted [])
  have seen : ((service (.scripted [])).runWithin 0 given farewell).map
      (fun r => (r.errors, r.left, r.service.world.lines)) =
      some ([.unknownCommand "dance".toList], ["help".toList],
        ["Goodbye, Ada. I'm sorry you have to leave."]) := by
    decide +kernel
  rw [alike.loop 0, Option.map_some, Option.some.injEq, Prod.mk.injEq, Prod.mk.injEq] at seen
  obtain ⟨errors, left, lines⟩ := seen
  refine ⟨nonempty, r, alike.options, alike.loop 0, errors, left, lines, fun input => ?_⟩
  rw [printed { commands := farewell } input rfl, errors]
  rfl

end Example

end Phrasebook.Demo
