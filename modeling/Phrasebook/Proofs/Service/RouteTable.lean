import Phrasebook.Demo.Controllers
import Phrasebook.Proofs.Service.History

/-! The commands of a service are a table that only grows. A command keeps its place, so a line that
is matched goes to the same place from then on; what is added later is tried after everything that
was there. -/
namespace Phrasebook.Service

variable {ι σ ω : Type} [HostTypes ι]

section Commands

variable {line : Text} {commands : List (Command ι)} {i : Nat} {c : Command ι} {captures : Captures}

theorem FirstAt.tried_eq (first : FirstAt line commands i c captures) :
    tried line commands = commands.take (i + 1) := by
  induction commands generalizing i with
  | nil => simpa using first.here
  | cons d commands ih =>
    rw [tried, List.take_succ_cons]
    cases i with
    | zero =>
      cases first.here
      simp [first.matched]
    | succ i =>
      obtain ⟨unmatched, first⟩ := firstAt_succ_iff.1 first
      simp [unmatched, ih first]

theorem exists_firstAt (matched : ∃ c ∈ commands, c.match? line ≠ none) :
    ∃ i c captures, FirstAt line commands i c captures := by
  cases found : firstMatch? line commands with
  | none =>
    obtain ⟨c, member, matched⟩ := matched
    exact absurd (firstMatch?_eq_none_iff.1 found c member) matched
  | some pair =>
    obtain ⟨i, first⟩ := firstMatch?_eq_some_iff.1 found
    exact ⟨i, _, _, first⟩

/-- Commands that are added are tried last. -/
theorem FirstAt.append (first : FirstAt line commands i c captures) (more : List (Command ι)) :
    FirstAt line (commands ++ more) i c captures := by
  have inside : i < commands.length := (List.getElem?_eq_some_iff.1 first.here).1
  refine ⟨?_, first.matched, fun j d before atPlace => ?_⟩
  · rw [List.getElem?_append_left inside]
    exact first.here
  · rw [List.getElem?_append_left (Nat.lt_trans before inside)] at atPlace
    exact first.first j d before atPlace

theorem FirstAt.added {more : List (Command ι)}
    (first : FirstAt line (commands ++ more) i c captures)
    (unmatched : ∀ d ∈ commands, d.match? line = none) : commands.length ≤ i := by
  by_contra inside
  have here := first.here
  rw [List.getElem?_append_left (Nat.lt_of_not_le inside)] at here
  have none := unmatched c (List.mem_of_getElem? here)
  cases none.symm.trans first.matched

end Commands

variable [DecidableEq ι] {s t : Service ι σ ω}

/-- What becomes of a line that goes to the command at place `i`: it has been tried after all those
before it, and no other is tried. -/
def sentTo (s : Service ι σ ω) (line : Text) (i : Nat) (c : Command ι) (captures : Captures) :
    Dispatch ι σ ω :=
  let events := (s.commands.take (i + 1)).map (fun c => Event.tryingRoute c.route) ++
    [.routeMatched line c.route c.controllerName]
  match c.bind captures s.registry with
  | .error e => ⟨s, .error (.conversion line e), none, events⟩
  | .ok arguments => conclude c line events (s.invoke c line arguments)

/-- The line is dispatched to the command at place `i`. -/
def GoesTo (s : Service ι σ ω) (line : Text) (i : Nat) : Prop :=
  ∃ c captures, s.commands[i]? = some c ∧ c.match? line = some captures ∧
    s.received (some line) = s.sentTo line i c captures

theorem FirstAt.received_eq {line : Text} {i : Nat} {c : Command ι} {captures : Captures}
    (first : FirstAt line s.commands i c captures) (nonempty : line ≠ []) :
    s.received (some line) = s.sentTo line i c captures := by
  rw [received_line nonempty]
  have chosen := firstMatch?_eq_some_iff.2 ⟨i, first⟩
  cases bound : c.bind captures s.registry with
  | error e => simp only [dispatch, chosen, sentTo, first.tried_eq, bound]
  | ok arguments => simp only [dispatch, chosen, sentTo, first.tried_eq, bound]

theorem FirstAt.goesTo {line : Text} {i : Nat} {c : Command ι} {captures : Captures}
    (first : FirstAt line s.commands i c captures) (nonempty : line ≠ []) : GoesTo s line i :=
  ⟨c, captures, first.here, first.matched, first.received_eq nonempty⟩

theorem Step.commands_grow (h : Step s t) : s.commands <+: t.commands := by
  cases h with
  | register c =>
    obtain ⟨_, _, commands, _, registered⟩ := register_frame s c
    exact ⟨commands, by rw [registered]⟩
  | addParser p =>
    obtain ⟨registry, added⟩ := addParser_frame s p
    exact ⟨[], by simp [added]⟩
  | listen listener => exact List.prefix_rfl
  | clearExit => exact List.prefix_rfl
  | update world => exact List.prefix_rfl
  | @dispatched line _ _ => exact ⟨[], by simp [(dispatch_keeps s line).commands]⟩
  | @signalled line _ _ _ => exact ⟨[], by simp [(dispatch_keeps s line).commands]⟩

theorem Reaches.commands_grow (h : Reaches s t) : s.commands <+: t.commands := by
  induction h with
  | refl => exact List.prefix_rfl
  | tail _ next ih => exact ih.trans next.commands_grow

/-- A dispatch leaves the listings as they are. -/
theorem received_listings (s : Service ι σ ω) (line? : Option Text) :
    (s.received line?).service.listings = s.listings := by
  rw [listings, (received_keeps s line?).commands, listings]

/-- The routes of a service are listed in a table that only grows at its end. The handler that is
called for a line, whose reply settles the dispatch, is shown the listings that the service has
before and after it. A line that a route matches is dispatched to the same place in all later
states; one that none matches goes, if at all, to a route that was added since. Executing a line,
with all that the listeners do about it, is one of the ways to a later state. -/
theorem routes_append_only (later : Reaches s t) :
    s.listings <+: t.listings ∧ t.routeCount = t.listings.length ∧
    (∀ line c reply after, t.Invokes line c reply after →
      (t.received (some line)).service.listings = t.listings ∧
      (∃ before events, t.received (some line) =
        conclude c line before ⟨after, reply.exitRequested, reply.result, events⟩) ∧
      ∃ i captures arguments m handler, FirstAt line t.commands i c captures ∧
        c.bind captures t.registry = .ok arguments ∧ t.Calls c line arguments reply after ∧
        t.handler? c = some (m, handler) ∧
        reply = handler ⟨line, c.controllerName, c.route, t.lastResult?, t.listings⟩ arguments
          (m.current.start t.world).1 (m.current.start t.world).2) ∧
    (∀ line, line ≠ [] → (∃ c ∈ s.commands, c.match? line ≠ none) →
      ∃ i, GoesTo s line i ∧ GoesTo t line i) ∧
    (∀ line, line ≠ [] → (∀ c ∈ s.commands, c.match? line = none) →
      (t.received (some line)).outcome = .error (.unknownCommand line) ∨
        ∃ i, s.routeCount ≤ i ∧ GoesTo t line i) ∧
    (∀ depth line? e, executeWithin depth t line? = some e → Reaches s e.service) := by
  obtain ⟨more, grown⟩ := later.commands_grow
  refine ⟨?_, ?_, fun line c reply after invokes =>
      ⟨t.received_listings (some line), invokes.received_eq, invokes.reply_eq⟩,
    fun line nonempty matched => ?_, fun line nonempty unmatched => ?_,
    fun depth line? e executed => ?_⟩
  · rw [listings, listings, ← grown, List.map_append]
    exact List.prefix_append _ _
  · rw [routeCount, listings, List.length_map]
  · obtain ⟨i, c, captures, first⟩ := exists_firstAt matched
    exact ⟨i, first.goesTo nonempty, FirstAt.goesTo (grown ▸ first.append more) nonempty⟩
  · cases found : firstMatch? line t.commands with
    | none =>
      left
      rw [received_line nonempty, dispatch, found]
    | some pair =>
      obtain ⟨i, first⟩ := firstMatch?_eq_some_iff.1 found
      exact .inr ⟨i, FirstAt.added (grown.symm ▸ first) unmatched, first.goesTo nonempty⟩
  · obtain ⟨acts, _, same, _⟩ := executeWithin_acts executed
    exact later.trans (same ▸ reaches_after t _)

/-- A controller whose one route matches every line. -/
def echo : Demo.DemoController :=
  (Demo.givenController "Echo").bind [{ template := "\x7bline\x7d".toList }] Demo.showCommands

/-- A route that matches everything takes no line away from the help route that was there first, and
gets those that nothing matched. -/
theorem echo_overtakes_nothing :
    let s : Demo.DemoService := ((Service.new ⟨[], .scripted []⟩).register Demo.help).service
    let t := ((s.register echo).service.register Demo.help).service
    Reaches s t ∧ (∃ i, GoesTo s "HELP".toList i ∧ GoesTo t "HELP".toList i) ∧
      ((t.received (some "hello".toList)).outcome = .error (.unknownCommand "hello".toList) ∨
        ∃ i, 3 ≤ i ∧ GoesTo t "hello".toList i) := by
  intro s t
  have later : Reaches s t := .tail (.single (.register s echo)) (.register _ Demo.help)
  obtain ⟨_, _, _, kept, added, _⟩ := routes_append_only later
  refine ⟨later, kept "HELP".toList (by decide) ?_, added "hello".toList (by decide) ?_⟩
  · decide
  · decide

end Phrasebook.Service
