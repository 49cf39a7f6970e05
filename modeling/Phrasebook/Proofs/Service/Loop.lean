import Phrasebook.Input
import Phrasebook.Proofs.Service.Exit
import Phrasebook.Service.Run

/-! The command loop is a fold. It executes the lines of its source one after another, each as if
it were executed alone, and stops where the flag is up, the input ends or a line cannot be read. -/
namespace Phrasebook.Service

variable {ι σ ω ε α : Type} [HostTypes ι] [DecidableEq ι]

/-- Some lines executed one after another, whatever the flag says, with their outcomes. -/
inductive Executes : Service ι σ ω → List Text → List Outcome → Service ι σ ω → Prop
  | nil {s : Service ι σ ω} : Executes s [] [] s
  | cons {s t : Service ι σ ω} {line : Text} {lines : List Text} {outcomes : List Outcome}
      {depth : Nat} {e : Executed ι σ ω} :
      executeWithin depth s (some line) = some e → Executes e.service lines outcomes t →
      Executes s (line :: lines) (e.outcome :: outcomes) t

/-- The lines that a source gives before anything else. -/
def leading (read : α → Except ε (Option Text)) : List α → List Text
  | [] => []
  | item :: more =>
    match read item with
    | .ok (some line) => line :: leading read more
    | _ => []

def failure? : Outcome → Option CommandError
  | .error error => some error
  | .ok _ => none

/-- Why a loop rests at a service with these items before it: its result, and what it leaves. -/
inductive Rests (read : α → Except ε (Option Text)) (s : Service ι σ ω) :
    List α → Except ε Unit → List α → Prop
  | flagged {items : List α} : s.exitRequested = true → Rests read s items (.ok ()) items
  | exhausted : s.exitRequested = false → Rests read s [] (.ok ()) []
  | ended {item : α} {more : List α} : s.exitRequested = false → read item = .ok none →
      Rests read s (item :: more) (.ok ()) more
  | unreadable {item : α} {more : List α} {error : ε} : s.exitRequested = false →
      read item = .error error → Rests read s (item :: more) (.error error) more

/-- The line at a place among those that are executed, between the lines before it and those after
it. The flag is down when it is read, and if it is up afterwards the line is the last; so it is if
a handler asks for an exit and no listener lowers the flag again. -/
structure Turn (s : Service ι σ ω) (lines : List Text) (outcomes : List Outcome)
    (final : Service ι σ ω) (place : Nat) (line : Text) (t : Service ι σ ω)
    (e : Executed ι σ ω) (more : List (Act ι σ ω)) : Prop where
  reached : Executes s (lines.take place) (outcomes.take place) t
  down : t.exitRequested = false
  executed : ∃ depth, executeWithin depth t (some line) = some e
  outcome : outcomes[place]? = some e.outcome
  does : Does (.line (some line)) t (.execute (some line) :: more) e.service
  remaining : Executes e.service (lines.drop (place + 1)) (outcomes.drop (place + 1)) final
  last : e.service.exitRequested = true → place + 1 = lines.length
  asked : (∃ request, t.AsksExit (some line) request) → .clearExit ∉ more →
    e.service.exitRequested = true

/-- A loop over some items has executed these lines and come to rest before these others. -/
structure Ran (read : α → Except ε (Option Text)) (s : Service ι σ ω) (items : List α)
    (r : Run ι σ ω ε α) (lines : List Text) (outcomes : List Outcome) (rest : List α) : Prop where
  taken : ∃ front, items = front ++ rest ∧ front.map read = lines.map fun line => .ok (some line)
  executed : Executes s lines outcomes r.service
  turns : ∀ place line, lines[place]? = some line →
    ∃ t e more, Turn s lines outcomes r.service place line t e more
  errors : r.errors = outcomes.filterMap failure?
  rests : Rests read r.service rest r.result r.left

section Ran

variable {read : α → Except ε (Option Text)} {s : Service ι σ ω} {items : List α}
  {r : Run ι σ ω ε α}

theorem ran_nothing (same : r.service = s) (errors : r.errors = [])
    (rests : Rests read s items r.result r.left) : Ran read s items r [] [] items :=
  ⟨⟨[], rfl, rfl⟩, same ▸ .nil, nofun, errors, same ▸ rests⟩

/-- One line more in front of those that a loop has executed. -/
theorem Ran.cons {item : α} {line : Text} {depth : Nat} {e : Executed ι σ ω}
    {lines : List Text} {outcomes : List Outcome} {rest : List α}
    (readable : read item = .ok (some line)) (down : s.exitRequested = false)
    (executed : executeWithin depth s (some line) = some e)
    (ran : Ran read e.service items r lines outcomes rest) :
    Ran read s (item :: items) (r.after e) (line :: lines) (e.outcome :: outcomes) rest := by
  obtain ⟨front, split, lined⟩ := ran.taken
  refine ⟨⟨item :: front, by rw [split]; rfl, ?_⟩, .cons executed ran.executed,
    fun place other there => ?_, ?_, ran.rests⟩
  · rw [List.map_cons, List.map_cons, readable, lined]
  · cases place with
    | zero =>
      cases there
      obtain ⟨more, does, same, _⟩ := executeWithin_acts executed
      refine ⟨s, e, more, .nil, down, ⟨depth, executed⟩, rfl, does, ran.executed, fun up => ?_,
        fun ⟨request, asks⟩ kept => same ▸ asks.raises kept⟩
      cases lines with
      | nil => rfl
      | cons second others =>
        -- A second line would have been read with the flag up.
        obtain ⟨t, _, _, turn⟩ := ran.turns 0 second rfl
        have start : Executes e.service [] [] t := turn.reached
        cases start
        rw [turn.down] at up
        cases up
    | succ place =>
      obtain ⟨t, later, more, turn⟩ := ran.turns place other there
      refine ⟨t, later, more, .cons executed turn.reached, turn.down, turn.executed,
        turn.outcome, turn.does, turn.remaining, fun up => ?_, turn.asked⟩
      rw [turn.last up]
      rfl
  · rw [Run.after, ran.errors]
    cases result : e.outcome with
    | ok succeeded => rfl
    | error error => rfl

theorem Ran.error_iff {lines : List Text} {outcomes : List Outcome} {rest : List α}
    (ran : Ran read s items r lines outcomes rest) (error : ε) :
    r.result = .error error ↔ r.service.exitRequested = false ∧
      ∃ item, rest = item :: r.left ∧ read item = .error error := by
  have rests := ran.rests
  generalize r.result = result at rests ⊢
  generalize r.left = left at rests ⊢
  cases rests with
  | flagged up => simp [up]
  | exhausted down => simp
  | ended down finished => simp [finished]
  | unreadable down unreadable => simp [down, unreadable, eq_comm]

/-- With the flag up nothing is read. -/
theorem Ran.of_up {lines : List Text} {outcomes : List Outcome} {rest : List α}
    (ran : Ran read s items r lines outcomes rest) (up : s.exitRequested = true) :
    lines = [] ∧ r.service = s ∧ r.errors = [] ∧ r.result = .ok () ∧ r.left = items := by
  cases lines with
  | nil =>
    obtain ⟨⟨front, split, lined⟩, executed, _, errors, rests⟩ := ran
    obtain rfl : front = [] := List.map_eq_nil_iff.1 lined
    generalize r.service = final at executed rests ⊢
    cases executed
    generalize r.result = result at rests ⊢
    generalize r.left = left at rests ⊢
    cases rests with
    | flagged => exact ⟨rfl, rfl, errors, rfl, split.symm⟩
    | exhausted down | ended down | unreadable down => cases up.symm.trans down
  | cons line more =>
    obtain ⟨t, _, _, turn⟩ := ran.turns 0 line rfl
    have start : Executes s [] [] t := turn.reached
    cases start
    cases up.symm.trans turn.down

/-- A loop rests, or it reads a line, executes it and goes on. -/
theorem rests_or_reads (read : α → Except ε (Option Text)) (s : Service ι σ ω) (items : List α) :
    (∃ r, (∀ depth, runWithin depth read s items = some r) ∧ Ran read s items r [] [] items) ∨
      ∃ item more line, items = item :: more ∧ s.exitRequested = false ∧
        read item = .ok (some line) ∧ ∀ depth, runWithin depth read s items =
          (executeWithin depth s (some line)).bind fun e =>
            (runWithin depth read e.service more).map (Run.after e) := by
  cases items with
  | nil =>
    refine .inl ⟨_, fun _ => rfl, ran_nothing rfl rfl ?_⟩
    cases flag : s.exitRequested with
    | true => exact .flagged flag
    | false => exact .exhausted flag
  | cons item more =>
    simp only [runWithin]
    cases flag : s.exitRequested with
    | true => exact .inl ⟨_, fun _ => rfl, ran_nothing rfl rfl (.flagged flag)⟩
    | false =>
      match readable : read item with
      | .error error =>
        exact .inl ⟨_, fun _ => rfl, ran_nothing rfl rfl (.unreadable flag readable)⟩
      | .ok none => exact .inl ⟨_, fun _ => rfl, ran_nothing rfl rfl (.ended flag readable)⟩
      | .ok (some line) =>
        refine .inr ⟨item, more, line, rfl, rfl, readable, fun depth => ?_⟩
        cases executed : executeWithin depth s (some line) <;> simp [executed]

theorem Settles.after {item : α} {line : Text} {e : Executed ι σ ω}
    (answers : ∀ depth, runWithin depth read s (item :: items) =
      (executeWithin depth s (some line)).bind fun e =>
        (runWithin depth read e.service items).map (Run.after e))
    (executed : Settles (fun depth => executeWithin depth s (some line)) e)
    (ran : Settles (fun depth => runWithin depth read e.service items) r) :
    Settles (fun depth => runWithin depth read s (item :: items)) (r.after e) := by
  obtain ⟨n, here⟩ := executed
  obtain ⟨m, later⟩ := ran
  refine ⟨max n m, fun depth deep => ?_⟩
  have first := here depth (Nat.le_trans (Nat.le_max_left n m) deep)
  have rest := later depth (Nat.le_trans (Nat.le_max_right n m) deep)
  dsimp only at first rest ⊢
  rw [answers, first, Option.bind_some, rest, Option.map_some]

/-- Whatever a loop answers, it has executed a prefix of its lines and come to rest, and every
depth that is great enough gives the same answer. -/
theorem runWithin_ran {depth : Nat} (h : runWithin depth read s items = some r) :
    Settles (fun depth => runWithin depth read s items) r ∧
      ∃ lines outcomes rest, Ran read s items r lines outcomes rest := by
  induction items generalizing s r with
  | nil =>
    rcases rests_or_reads read s [] with ⟨same, answers, ran⟩ | ⟨_, _, _, reads, _⟩
    · cases h.symm.trans (answers depth)
      exact ⟨⟨0, fun depth _ => answers depth⟩, [], [], [], ran⟩
    · cases reads
  | cons item items ih =>
    rcases rests_or_reads read s (item :: items) with
      ⟨same, answers, ran⟩ | ⟨_, _, line, reads, down, readable, answers⟩
    · cases h.symm.trans (answers depth)
      exact ⟨⟨0, fun depth _ => answers depth⟩, [], [], item :: items, ran⟩
    · cases reads
      rw [answers, Option.bind_eq_some_iff] at h
      obtain ⟨e, executed, h⟩ := h
      obtain ⟨r, later, rfl⟩ := Option.map_eq_some_iff.1 h
      obtain ⟨settles, lines, outcomes, rest, ran⟩ := ih later
      exact ⟨.after answers (executeWithin_settles executed) settles, line :: lines,
        e.outcome :: outcomes, rest, ran.cons readable down executed⟩

end Ran

/-- Every line that a loop comes to returns: executed from where the lines before it have led,
with the flag down, it is answered within some depth. -/
def Returns (read : α → Except ε (Option Text)) (s : Service ι σ ω) (items : List α) : Prop :=
  ∀ lines outcomes t line, Executes s lines outcomes t →
    lines ++ [line] <+: leading read items → t.exitRequested = false →
    ∃ depth e, executeWithin depth t (some line) = some e

section Returns

variable {read : α → Except ε (Option Text)} {s : Service ι σ ω} {item : α} {items : List α}
  {line : Text}

theorem leading_cons (readable : read item = .ok (some line)) :
    leading read (item :: items) = line :: leading read items := by
  rw [leading, readable]

theorem Returns.first (returns : Returns read s (item :: items))
    (readable : read item = .ok (some line)) (down : s.exitRequested = false) :
    ∃ depth e, executeWithin depth s (some line) = some e := by
  refine returns [] [] s line .nil ?_ down
  rw [leading_cons readable]
  exact ⟨_, rfl⟩

theorem Returns.later {depth : Nat} {e : Executed ι σ ω} (returns : Returns read s (item :: items))
    (readable : read item = .ok (some line))
    (executed : executeWithin depth s (some line) = some e) : Returns read e.service items := by
  intro lines outcomes t next reached front down
  refine returns _ _ t next (.cons executed reached) ?_ down
  rw [leading_cons readable]
  exact List.cons_prefix_cons.2 ⟨rfl, front⟩

theorem run_settles (returns : Returns read s items) :
    ∃ r, Settles (fun depth => runWithin depth read s items) r := by
  induction items generalizing s with
  | nil => exact ⟨_, 0, fun _ _ => rfl⟩
  | cons item items ih =>
    rcases rests_or_reads read s (item :: items) with
      ⟨r, answers, _⟩ | ⟨_, _, line, reads, down, readable, answers⟩
    · exact ⟨r, 0, fun depth _ => answers depth⟩
    · cases reads
      obtain ⟨_, e, executed⟩ := returns.first readable down
      obtain ⟨r, settles⟩ := ih (returns.later readable executed)
      exact ⟨r.after e, .after answers (executeWithin_settles executed) settles⟩

end Returns

/-- Executing some lines has one result. -/
theorem Executes.unique {s t u : Service ι σ ω} {lines : List Text} {outs others : List Outcome}
    (h : Executes s lines outs t) (other : Executes s lines others u) : outs = others ∧ t = u := by
  induction h generalizing others u with
  | nil =>
    cases other
    exact ⟨rfl, rfl⟩
  | cons executed _ ih =>
    cases other with
    | cons again rest =>
      cases (executeWithin_settles executed).unique (executeWithin_settles again)
      obtain ⟨rfl, rfl⟩ := ih rest
      exact ⟨rfl, rfl⟩

/-- Lines that have all been executed return. -/
theorem Executes.returns {read : α → Except ε (Option Text)} {s t : Service ι σ ω}
    {items : List α} {outcomes : List Outcome} (h : Executes s (leading read items) outcomes t) :
    Returns read s items := by
  intro lines others u line reached front _
  generalize leading read items = all at h front
  induction h generalizing lines others with
  | nil => simp at front
  | cons executed _ ih =>
    cases reached with
    | nil =>
      cases (List.cons_prefix_cons.1 front).1
      exact ⟨_, _, executed⟩
    | cons again rest =>
      obtain ⟨rfl, later⟩ := List.cons_prefix_cons.1 front
      cases (executeWithin_settles executed).unique (executeWithin_settles again)
      exact ih _ _ rest later

/-- The loop is a fold. Where listeners' calls return it has one answer. It executes a prefix of
its lines, each once and in order, and a line is read only while the flag is down; the errors are
those of the lines that fail, the service is what executing these lines one by one gives, and what
comes after them has not been read. -/
theorem run_folds_execute {read : α → Except ε (Option Text)} {s : Service ι σ ω}
    {items : List α} (returns : Returns read s items) :
    ∃ r lines outcomes rest, Settles (fun depth => runWithin depth read s items) r ∧
      (∀ depth other, runWithin depth read s items = some other → other = r) ∧
      Ran read s items r lines outcomes rest ∧
      (∀ outs t, Executes s lines outs t → outs = outcomes ∧ t = r.service) ∧
      (∀ error, r.result = .error error ↔ r.service.exitRequested = false ∧
        ∃ item, rest = item :: r.left ∧ read item = .error error) ∧
      (s.exitRequested = true → lines = [] ∧ r.service = s ∧ r.errors = [] ∧
        r.result = .ok () ∧ r.left = items) := by
  obtain ⟨r, settles⟩ := run_settles returns
  obtain ⟨enough, answered⟩ := settles
  obtain ⟨_, lines, outcomes, rest, ran⟩ := runWithin_ran (answered enough (Nat.le_refl enough))
  refine ⟨r, lines, outcomes, rest, ⟨enough, answered⟩, fun depth other h => ?_, ran,
    fun outs t executed => executed.unique ran.executed, ran.error_iff, ran.of_up⟩
  exact (runWithin_ran h).1.unique ⟨enough, answered⟩

section Example

open Script

def openDoor : SceneService := (newService.register door.controller).service

/-- Someone counts, closes the door and would count again. -/
def visit : List Text := ["count".toList, "close".toList, "count".toList]

theorem visit_returns : Returns (Input.each Input.scripted) openDoor visit := by
  have all : ∃ outcomes t, Executes openDoor (leading (Input.each Input.scripted) visit)
      outcomes t :=
    ⟨_, _, .cons (rfl : executeWithin 0 _ _ = some _) <|
      .cons (rfl : executeWithin 0 _ _ = some _) <|
      .cons (rfl : executeWithin 0 _ _ = some _) .nil⟩
  obtain ⟨outcomes, t, executes⟩ := all
  exact executes.returns

/-- The line that asked for an exit and failed is reported, and the next one is not read. -/
theorem visit_stops : ∃ r,
    Settles (fun depth => runWithin depth (Input.each Input.scripted) openDoor visit) r ∧
    r.errors = [.handler "close".toList ⟨"stuck", []⟩] ∧ r.left = ["count".toList] ∧
    r.service.exitRequested = true := by
  obtain ⟨r, _, _, _, settles, only, _⟩ := run_folds_execute visit_returns
  have seen : (runWithin 0 (Input.each Input.scripted) openDoor visit).map
      (fun r => (r.errors, r.left, r.service.exitRequested)) =
      some ([.handler "close".toList ⟨"stuck", []⟩], ["count".toList], true) := rfl
  obtain ⟨other, answered, same⟩ := Option.map_eq_some_iff.1 seen
  cases only 0 other answered
  obtain ⟨errors, left, up⟩ : _ ∧ _ ∧ _ := by simpa using same
  exact ⟨r, settles, errors, left, up⟩

end Example

end Phrasebook.Service
