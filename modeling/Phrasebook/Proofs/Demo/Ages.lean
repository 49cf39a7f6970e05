import Phrasebook.Proofs.Demo.Session
import Phrasebook.Proofs.Service.LastResult
import Phrasebook.Proofs.Template.Cut

/-! Ages that are shown once more. What the demo remembers of a line are the ages that it set, and
only until the next line that succeeds. -/
namespace Phrasebook.Demo

open Service

namespace Ages

theorem entries?_map (ages : Ages) :
    entries? (ages.map fun (name, age) => .array [.text name, .text age]) = some ages := by
  induction ages with
  | nil => rfl
  | cons entry ages ih =>
    rw [List.map_cons, entries?, ih]
    rfl

/-- Ages that were answered can be read back, even if there are none. -/
theorem ofJson?_toJson (ages : Ages) : ofJson? ages.toJson = some ages := entries?_map ages

end Ages

/-- What a line to the ages controller is about: all that follows the first words. -/
def collection (line : Text) : Text := line.drop agesLead.length

theorem collection_append {lead rest : Text}
    (same : CaseRule.ignoring.sameText lead agesLead = true) : collection (lead ++ rest) = rest :=
  List.drop_left' (CaseRule.sameText_length same)

/-- A name by itself is looked up to what was captured for it, be it nothing. -/
theorem get?_captured {name stretch : Text} {values : List (Text × Text)} {rule : CaseRule}
    (captured : Template.capture (some name) stretch = some values) :
    (Captures.get? ⟨values, rule⟩ name).getD [] = stretch := by
  rw [Template.capture_some, Option.some.injEq] at captured
  by_cases empty : stretch = []
  · rw [if_pos empty] at captured
    rw [← captured, empty]
    rfl
  · rw [if_neg empty] at captured
    simp [← captured, Captures.get?]

theorem agesCommand_match? {line : Text} {captures : Captures}
    (matched : agesCommand.match? line = some captures) :
    (∃ lead, CaseRule.ignoring.sameText lead agesLead = true ∧ line = lead ++ collection line) ∧
    (captures.get? "collection".toList).getD [] = collection line := by
  obtain ⟨values, parts, rfl⟩ := Option.map_eq_some_iff.1 matched
  obtain ⟨o, here, later, found, before, after, rfl⟩ := Template.matchParts_literal_iff.1 parts
  obtain ⟨start, rfl⟩ := Template.capture_none_iff.1 before
  obtain ⟨whole, same⟩ := (Occurrence.first?_leftmost found).cuts
  rw [start, List.nil_append] at whole
  rw [whole, collection_append same]
  refine ⟨⟨o.found, same, rfl⟩, ?_⟩
  exact get?_captured after

theorem agesCommand_bind {captures : Captures} {arguments : Arguments HostType}
    (bound : agesCommand.bind captures ⟨[agesParser]⟩ = .ok arguments) :
    (arguments.get? "collection".toList agesType).getD [] =
      Ages.read ((captures.get? "collection".toList).getD []) := by
  rw [Command.bind, agesCommand, Command.bindParams, Command.bindParam] at bound
  cases given : captures.get? "collection".toList with
  | none =>
    simp only [given] at bound
    cases bound
    rfl
  | some raw =>
    simp only [given] at bound
    cases bound
    rfl

/-- No answer but that of the ages controller can be read as ages. -/
theorem ofJson?_shared {handler : DemoHandler} (shared : handler ∈ sharedHandlers) {context : Context}
    {arguments : Arguments HostType} {state : Presence} {stage : Stage} {value? : Option Json}
    (ok : (handler context arguments state stage).result = .ok value?) :
    value?.bind Ages.ofJson? = none := by
  rcases (shared_reply context arguments state stage shared).2 value? ok with
    rfl | ⟨t, rfl⟩ | ⟨n, rfl⟩ <;> rfl

theorem setAges_eq (context : Context) (arguments : Arguments HostType) (stage : Stage) :
    setAges context arguments ⟨false⟩ stage =
      let ages := (arguments.get? "collection".toList agesType).getD []
      ⟨⟨true⟩, stage.printAll (announcement :: "Here it is:" :: (ages.map currentLine ++
        previousLines context.lastResult?)), false, .ok (some ages.toJson)⟩ := rfl

/-- What is shown of the ages that were set before. -/
def shownAgain : Option Ages → List String
  | some past => "Previous:" :: past.map pastLine
  | none => []

theorem previousLines_eq (lastResult? : Option Json) :
    previousLines lastResult? = shownAgain (lastResult?.bind Ages.ofJson?) := rfl

/-- A line sets ages. The words in front of them are recognised in any case. -/
structure SetsAges (s : DemoService) (line : Text) (d : Dispatch HostType Presence Stage) : Prop where
  lead : ∃ lead, CaseRule.ignoring.sameText lead agesLead = true ∧ line = lead ++ collection line
  outcome : ∃ answer, d.outcome = .ok answer ∧ answer.route = agesRoute
  lastResult : d.service.lastResult? = some (Ages.read (collection line)).toJson
  output : d.service.world.output = s.world.output ++
    (announcement :: "Here it is:" :: ((Ages.read (collection line)).map currentLine ++
      shownAgain (s.lastResult?.bind Ages.ofJson?))).map .line

section Line

variable {s : DemoService} {line? : Option Text} {k : Call HostType Presence Stage}

theorem Handled.setsAges (running : Running s) {d : Dispatch HostType Presence Stage}
    (handled : Handled s line? k d) (command : k.command = agesCommand)
    (handler : k.handler = setAges) : SetsAges s k.line d := by
  obtain ⟨_, _, ⟨i, captures, first, bound⟩, _⟩ := call?_eq_some_iff.1 handled.called
  rw [command, running.registry] at bound
  obtain ⟨lead, captured⟩ := agesCommand_match? (command ▸ first.matched)
  have ages := agesCommand_bind bound
  rw [captured] at ages
  have reply := setAges_eq (s.context k.command k.line) k.arguments s.world
  rw [ages, ← handler] at reply
  change replied s k = _ at reply
  dsimp only at reply
  refine ⟨lead, ⟨_, handled.succeeded _ (by rw [reply]), by rw [command]; rfl⟩, ?_, ?_⟩
  · rw [handled.service, resultAfter, reply]
  · rw [handled.service, reply, ← previousLines_eq]
    rfl

/-- What a line means for the ages: it fails and leaves them, or it succeeds without setting any,
and then none are left, or it sets some. -/
theorem Running.ages_cases (running : Running s) (line? : Option Text) :
    (∃ error, (s.received line?).outcome = .error error ∧
      (s.received line?).service.lastResult? = s.lastResult?) ∨
    (∃ answer, (s.received line?).outcome = .ok answer ∧ answer.route ≠ agesRoute ∧
      (s.received line?).service.lastResult?.bind Ages.ofJson? = none) ∨
    ∃ line, line? = some line ∧ SetsAges s line (s.received line?) := by
  rcases running.step line? with refused | ⟨k, handled⟩
  · obtain ⟨error, failed⟩ := refused.outcome
    exact .inl ⟨error, failed, by rw [refused.service]⟩
  rcases running.call_cases handled.called with ⟨command, _, handler⟩ | ⟨route, _, shared⟩
  · have line := (call?_eq_some_iff.1 handled.called).1
    exact .inr (.inr ⟨k.line, line, handled.setsAges running command handler⟩)
  · cases result : (replied s k).result with
    | error failure =>
      refine .inl ⟨_, handled.failed failure result, ?_⟩
      rw [handled.service, resultAfter, result]
    | ok value? =>
      refine .inr (.inl ⟨_, handled.succeeded value? result, route, ?_⟩)
      rw [handled.service, resultAfter, result]
      exact ofJson?_shared shared result

end Line

/-- The answer to a line that succeeded. -/
def Exchange.answer? (x : Exchange) : Option Dispatched := x.executed.outcome.toOption

/-- The ages that a line set. -/
def Exchange.ages? (x : Exchange) : Option Ages :=
  match x.line?, x.answer? with
  | some line, some answer =>
    if answer.route = agesRoute then some (Ages.read (collection line)) else none
  | _, _ => none

/-- The ages that the latest line to succeed set, if it set any. -/
def latestAges? (past : List Exchange) : Option Ages :=
  (past.filter (·.answer?.isSome)).getLast?.bind Exchange.ages?

theorem latestAges?_concat (past : List Exchange) (x : Exchange) :
    latestAges? (past ++ [x]) = if x.answer?.isSome then x.ages? else latestAges? past := by
  by_cases succeeded : x.answer?.isSome = true <;> simp [latestAges?, succeeded]

/-- The ages that the demo can read from its last result are those of the latest success. -/
structure Remembers (past : List Exchange) (s : DemoService) : Prop where
  running : Running s
  ages : s.lastResult?.bind Ages.ofJson? = latestAges? past

theorem Remembers.execute {past : List Exchange} {s : DemoService} {depth : Nat} {line? : Option Text}
    {e : Executed HostType Presence Stage} (h : Remembers past s)
    (executed : executeWithin depth s line? = some e) :
    Remembers (past ++ [⟨line?, s, e⟩]) e.service := by
  obtain ⟨events, same⟩ := h.running.executeWithin_eq depth line?
  cases same.symm.trans executed
  refine ⟨h.running.received line?, ?_⟩
  rw [flagged_lastResult, latestAges?_concat]
  rcases h.running.ages_cases line? with
    ⟨error, failed, kept⟩ | ⟨answer, ok, route, gone⟩ | ⟨line, rfl, sets⟩
  · simp [Exchange.answer?, failed, Except.toOption, kept, h.ages]
  · cases line? <;> simp [Exchange.ages?, Exchange.answer?, ok, Except.toOption, gone, route]
  · obtain ⟨answer, ok, route⟩ := sets.outcome
    simp [Exchange.ages?, Exchange.answer?, ok, Except.toOption, route, sets.lastResult,
      Ages.ofJson?_toJson]

/-- In any session a line to set ages announces a new instance and shows the ages that follow the
words it starts with; and it shows ages once more if the latest line before it to succeed set some,
and these are what it shows. -/
theorem set_ages_shown (depth : Nat) (secrets : Secrets) (lines : List (Option Text)) :
    ∃ xs, exchanges depth (service secrets) lines = some xs ∧ xs.map (·.line?) = lines ∧
      ∀ earlier x later answer, xs = earlier ++ x :: later → x.executed.outcome = .ok answer →
        answer.route = agesRoute →
        ∃ lead rest, x.line? = some (lead ++ rest) ∧
          CaseRule.ignoring.sameText lead agesLead = true ∧ x.ages? = some (Ages.read rest) ∧
          x.executed.service.world.output = x.before.world.output ++
            (announcement :: "Here it is:" :: ((Ages.read rest).map currentLine ++
              shownAgain (latestAges? earlier))).map .line := by
  have running := running_service secrets
  obtain ⟨xs, exchanged, same⟩ := running.exists_exchanges depth lines
  refine ⟨xs, exchanged, same, fun earlier x later answer split ok route => ?_⟩
  have start : Remembers [] (service secrets) := ⟨running, by rw [service_eq]; rfl⟩
  obtain ⟨now, executed⟩ := exchanges_keep Remembers.execute start exchanged split
  obtain ⟨events, same⟩ := now.running.executeWithin_eq depth x.line?
  have came := Option.some.inj (executed.symm.trans same)
  have outcome : (x.before.received x.line?).outcome = .ok answer := by rw [← ok, came]
  rcases now.running.ages_cases x.line? with
    ⟨error, failed, _⟩ | ⟨other, succeeded, elsewhere, _⟩ | ⟨line, there, sets⟩
  · cases outcome.symm.trans failed
  · cases outcome.symm.trans succeeded
    exact absurd route elsewhere
  · obtain ⟨lead, led, split⟩ := sets.lead
    refine ⟨lead, collection line, by rw [there, ← split], led, ?_, ?_⟩
    · simp [Exchange.ages?, Exchange.answer?, there, ok, Except.toOption, route]
    · obtain ⟨up, flagged⟩ := (x.before.received x.line?).flagged_frame
      rw [came, flagged, sets.output, now.ages]
      rfl

example :
    let lines := ["Set ages: Ada=36", "Sit ages: Ada=37", "SET AGES: Bob=40;=;"]
    (exchanges 0 (service (.scripted [])) (lines.map fun line => some line.toList)).map
        (·.getLast?.map (·.executed.service.world.lines)) =
      some (some [announcement, "Here it is:", "Ada is 36 years old.", announcement, "Here it is:",
        "Bob is 40 years old.", "Previous:", "Ada was 36 years old."]) := rfl

end Phrasebook.Demo
