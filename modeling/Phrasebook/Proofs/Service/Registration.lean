import Mathlib.Data.List.Forall2
import Phrasebook.Service.Register

/-! A controller is registered as a whole or not at all. What refuses it is, in this order, a type
that is taken, its first route with a bad template, or a factory that is missing; a refusal leaves
no trace. -/
namespace Phrasebook

namespace Controller

variable {ι σ ω : Type} [HostTypes ι] {c : Controller ι σ ω}

/-- The full template of a route: its own, after the controller's prefix if it uses that. -/
inductive HasTemplate (c : Controller ι σ ω) (route : Route ι) : Text → Prop
  | led : route.usesPrefix = true → HasTemplate c route (c.lead ++ route.template)
  | bare : route.usesPrefix = false → HasTemplate c route route.template

/-- The case rule that a route goes by: its own, or else the controller's. -/
inductive HasRule (c : Controller ι σ ω) (route : Route ι) : CaseRule → Prop
  | own {rule : CaseRule} : route.caseRule? = some rule → HasRule c route rule
  | inherited : route.caseRule? = none → HasRule c route c.caseRule

theorem hasTemplate_iff {route : Route ι} {full : Text} :
    c.HasTemplate route full ↔ c.fullTemplate route = full := by
  constructor
  · rintro (used | unused)
    · rw [fullTemplate, if_pos used]
    · rw [fullTemplate, if_neg (by simp [unused])]
  · rintro rfl
    cases uses : route.usesPrefix with
    | true =>
      rw [fullTemplate, if_pos uses]
      exact .led uses
    | false =>
      rw [fullTemplate, if_neg (by simp [uses])]
      exact .bare uses

theorem hasRule_iff {route : Route ι} {rule : CaseRule} :
    c.HasRule route rule ↔ c.ruleFor route = rule := by
  constructor
  · rintro (own | inherited)
    · rw [ruleFor, own, Option.getD_some]
    · rw [ruleFor, inherited, Option.getD_none]
  · rintro rfl
    cases given : route.caseRule? with
    | some rule =>
      rw [ruleFor, given, Option.getD_some]
      exact .own given
    | none =>
      rw [ruleFor, given, Option.getD_none]
      exact .inherited given

theorem HasTemplate.unique {route : Route ι} {full other : Text} (h : c.HasTemplate route full)
    (k : c.HasTemplate route other) : full = other := by
  rw [← hasTemplate_iff.1 h, hasTemplate_iff.1 k]

theorem HasRule.unique {route : Route ι} {rule other : CaseRule} (h : c.HasRule route rule)
    (k : c.HasRule route other) : rule = other := by
  rw [← hasRule_iff.1 h, hasRule_iff.1 k]

/-- The full template of a route compiles, and no two of its names are the same under the rule of
the route. -/
structure Accepts (c : Controller ι σ ω) (route : Route ι) (template : Template) : Prop where
  compiled : ∃ full, c.HasTemplate route full ∧ Template.compile full = .ok template
  named : ∃ rule, c.HasRule route rule ∧ template.checkNames rule = .ok ()

inductive Refuses (c : Controller ι σ ω) (route : Route ι) : TemplateError → Prop
  | malformed {full : Text} {e : TemplateError} :
      c.HasTemplate route full → Template.compile full = .error e → Refuses c route e
  | clashing {full : Text} {rule : CaseRule} {template : Template} {e : TemplateError} :
      c.HasTemplate route full → Template.compile full = .ok template →
      c.HasRule route rule → template.checkNames rule = .error e → Refuses c route e

/-- The command of a route that is bound to the handler at some place. -/
structure Yields (c : Controller ι σ ω) (place : Nat) (bound : Route ι × Nat)
    (command : Command ι) : Prop where
  template : c.Accepts bound.1 command.template
  controller : command.controller = place
  name : command.controllerName = c.name
  handler : command.handler = bound.2
  rule : c.HasRule bound.1 command.caseRule
  description : command.description? = bound.1.description?
  params : command.params = bound.1.params

/-- Every route is accepted. -/
def Sound (c : Controller ι σ ω) : Prop :=
  ∀ bound ∈ c.routes, ∃ template, c.Accepts bound.1 template

/-- A route is refused, and all routes declared before it are accepted. -/
structure FirstBad (c : Controller ι σ ω) (bad : Route ι × Nat) (e : TemplateError) : Prop where
  refused : c.Refuses bad.1 e
  first : ∃ good later, c.routes = good ++ bad :: later ∧
    ∀ bound ∈ good, ∃ template, c.Accepts bound.1 template

/-- Instances per command would have to be built, but there is only a given one. -/
def LacksFactory (c : Controller ι σ ω) : Prop :=
  c.perCommand = true ∧ ∃ state, c.source = .given state

theorem accepts_iff {route : Route ι} {template : Template} :
    c.Accepts route template ↔ Template.compile (c.fullTemplate route) = .ok template ∧
      template.checkNames (c.ruleFor route) = .ok () := by
  constructor
  · rintro ⟨⟨full, written, compiled⟩, rule, governed, named⟩
    rw [hasTemplate_iff.1 written, hasRule_iff.1 governed]
    exact ⟨compiled, named⟩
  · rintro ⟨compiled, named⟩
    exact ⟨⟨_, hasTemplate_iff.2 rfl, compiled⟩, _, hasRule_iff.2 rfl, named⟩

theorem Accepts.compileTemplate_eq {route : Route ι} {template : Template}
    (h : c.Accepts route template) : c.compileTemplate route = .ok template := by
  obtain ⟨compiled, named⟩ := accepts_iff.1 h
  simp [compileTemplate, compiled, named, Except.map]

theorem Refuses.compileTemplate_eq {route : Route ι} {e : TemplateError} (h : c.Refuses route e) :
    c.compileTemplate route = .error e := by
  cases h with
  | malformed written compiled =>
    rw [compileTemplate, hasTemplate_iff.1 written, compiled]
  | clashing written compiled governed named =>
    rw [compileTemplate, hasTemplate_iff.1 written, compiled, hasRule_iff.1 governed]
    simp [named, Except.map]

/-- Every route is accepted or refused. -/
theorem accepts_or_refuses (c : Controller ι σ ω) (route : Route ι) :
    (∃ template, c.Accepts route template) ∨ ∃ e, c.Refuses route e := by
  cases compiled : Template.compile (c.fullTemplate route) with
  | error e => exact .inr ⟨e, .malformed (hasTemplate_iff.2 rfl) compiled⟩
  | ok template =>
    cases named : template.checkNames (c.ruleFor route) with
    | error e =>
      exact .inr ⟨e, .clashing (hasTemplate_iff.2 rfl) compiled (hasRule_iff.2 rfl) named⟩
    | ok _ => exact .inl ⟨template, accepts_iff.2 ⟨compiled, named⟩⟩

theorem command_eq_ok_iff {place : Nat} {bound : Route ι × Nat} {command : Command ι} :
    c.command place bound = .ok command ↔ c.Yields place bound command := by
  constructor
  · intro h
    rcases c.accepts_or_refuses bound.1 with ⟨template, accepted⟩ | ⟨e, refused⟩
    · rw [Controller.command, accepted.compileTemplate_eq] at h
      cases h
      exact ⟨accepted, rfl, rfl, rfl, hasRule_iff.2 rfl, rfl, rfl⟩
    · rw [Controller.command, refused.compileTemplate_eq] at h
      contradiction
  · intro h
    rw [Controller.command, h.template.compileTemplate_eq, ← h.controller, ← h.name, ← h.handler,
      hasRule_iff.1 h.rule, ← h.description, ← h.params]

theorem command_eq_error {place : Nat} {bound : Route ι × Nat} {e : TemplateError}
    (refused : c.Refuses bound.1 e) :
    c.command place bound = .error (.malformedTemplate c.name (c.fullTemplate bound.1) e) := by
  rw [Controller.command, refused.compileTemplate_eq]

theorem compile_eq_ok_iff {place : Nat} {routes : List (Route ι × Nat)}
    {commands : List (Command ι)} :
    c.compile place routes = .ok commands ↔ List.Forall₂ (c.Yields place) routes commands := by
  induction routes generalizing commands with
  | nil => simp [Controller.compile, eq_comm]
  | cons bound routes ih =>
    rw [Controller.compile, List.forall₂_cons_left_iff]
    constructor
    · intro h
      cases made : c.command place bound with
      | error e => simp [made] at h
      | ok command =>
        cases rest : c.compile place routes with
        | error e => simp [made, rest, Except.map] at h
        | ok more =>
          simp only [made, rest, Except.map, Except.ok.injEq] at h
          exact ⟨command, more, command_eq_ok_iff.1 made, ih.1 rest, h.symm⟩
    · rintro ⟨command, more, yields, others, rfl⟩
      rw [command_eq_ok_iff.2 yields, ih.2 others]
      rfl

/-- The first bad route ends a compilation, whatever comes after it. -/
theorem compile_eq_error {place : Nat} {good later : List (Route ι × Nat)}
    {bad : Route ι × Nat} {e : TemplateError}
    (accepted : ∀ bound ∈ good, ∃ template, c.Accepts bound.1 template)
    (refused : c.Refuses bad.1 e) :
    c.compile place (good ++ bad :: later) =
      .error (.malformedTemplate c.name (c.fullTemplate bad.1) e) := by
  induction good with
  | nil => simp [Controller.compile, command_eq_error refused]
  | cons bound good ih =>
    obtain ⟨template, here⟩ := accepted bound List.mem_cons_self
    have later := ih fun b hb => accepted b (List.mem_cons_of_mem _ hb)
    simp [Controller.compile, Controller.command, here.compileTemplate_eq, later, Except.map]

theorem all_accepted_or_first_refused (c : Controller ι σ ω) (routes : List (Route ι × Nat)) :
    (∀ bound ∈ routes, ∃ template, c.Accepts bound.1 template) ∨
    ∃ good bad later e, routes = good ++ bad :: later ∧
      (∀ bound ∈ good, ∃ template, c.Accepts bound.1 template) ∧ c.Refuses bad.1 e := by
  induction routes with
  | nil => exact .inl (by simp)
  | cons bound routes ih =>
    rcases c.accepts_or_refuses bound.1 with here | ⟨e, refused⟩
    · rcases ih with all | ⟨good, bad, later, e, rfl, accepted, refused⟩
      · exact .inl (List.forall_mem_cons.2 ⟨here, all⟩)
      · refine .inr ⟨bound :: good, bad, later, e, rfl, ?_, refused⟩
        exact List.forall_mem_cons.2 ⟨here, accepted⟩
    · exact .inr ⟨[], bound, routes, e, rfl, by simp, refused⟩

theorem sound_or_firstBad (c : Controller ι σ ω) : c.Sound ∨ ∃ bad e, c.FirstBad bad e := by
  rcases c.all_accepted_or_first_refused c.routes with sound | first
  · exact .inl sound
  · obtain ⟨good, bad, later, e, split, accepted, refused⟩ := first
    exact .inr ⟨bad, e, refused, good, later, split, accepted⟩

theorem exists_compile_of_accepted {place : Nat} {routes : List (Route ι × Nat)}
    (accepted : ∀ bound ∈ routes, ∃ template, c.Accepts bound.1 template) :
    ∃ commands, c.compile place routes = .ok commands := by
  induction routes with
  | nil => exact ⟨[], rfl⟩
  | cons bound routes ih =>
    obtain ⟨template, here⟩ := accepted bound List.mem_cons_self
    obtain ⟨commands, rest⟩ := ih fun b hb => accepted b (List.mem_cons_of_mem _ hb)
    simp [Controller.compile, Controller.command, here.compileTemplate_eq, rest, Except.map]

theorem instantiate_cases (c : Controller ι σ ω) (world : ω) :
    (c.LacksFactory ∧ c.instantiate world = .error (.missingFactory c.name)) ∨
    (¬ c.LacksFactory ∧ ∃ current after, c.instantiate world = .ok (current, after)) := by
  unfold LacksFactory instantiate
  cases c.source <;> cases c.perCommand <;> simp

end Controller

namespace Service

variable {ι σ ω : Type} [HostTypes ι] [DecidableEq ι]

variable {s : Service ι σ ω} {c : Controller ι σ ω}

theorem register_taken (taken : c.typeName ∈ s.typeNames) :
    s.register c = ⟨s, .error (.duplicateController c.name), []⟩ := by
  rw [register, if_pos ((s.knows_iff _).2 taken)]

theorem register_malformed {bad : Route ι × Nat} {full : Text} {e : TemplateError}
    (new : c.typeName ∉ s.typeNames) (first : c.FirstBad bad e)
    (written : c.HasTemplate bad.1 full) :
    s.register c = ⟨s, .error (.malformedTemplate c.name full e), []⟩ := by
  obtain ⟨refused, good, later, split, accepted⟩ := first
  rw [register, if_neg (mt (s.knows_iff _).1 new), split,
    Controller.compile_eq_error accepted refused, Controller.hasTemplate_iff.1 written]

theorem register_unbuildable (new : c.typeName ∉ s.typeNames) (sound : c.Sound)
    (lacks : c.LacksFactory) : s.register c = ⟨s, .error (.missingFactory c.name), []⟩ := by
  obtain ⟨commands, compiled⟩ := Controller.exists_compile_of_accepted sound
  rcases c.instantiate_cases s.world with ⟨_, refused⟩ | ⟨has, _⟩
  · rw [register, if_neg (mt (s.knows_iff _).1 new), compiled, refused]
  · exact absurd lacks has

theorem register_complete (new : c.typeName ∉ s.typeNames) (sound : c.Sound)
    (has : ¬ c.LacksFactory) :
    ∃ commands current world, List.Forall₂ (c.Yields s.members.length) c.routes commands ∧
      c.instantiate s.world = .ok (current, world) ∧
      s.register c = ⟨{ s with
        members := s.members ++ [⟨c.name, current, c.handlers⟩]
        typeNames := s.typeNames ++ [c.typeName]
        commands := s.commands ++ commands
        world := world }, .ok (), s.registrationEvents c.name commands⟩ := by
  obtain ⟨commands, compiled⟩ := Controller.exists_compile_of_accepted sound
  rcases c.instantiate_cases s.world with ⟨lacks, _⟩ | ⟨_, current, world, made⟩
  · exact absurd lacks has
  · refine ⟨commands, current, world, Controller.compile_eq_ok_iff.1 compiled, made, ?_⟩
    rw [register, if_neg (mt (s.knows_iff _).1 new), compiled, made]

theorem register_error_iff {error : RegistrationError} :
    (s.register c).result = .error error ↔
      (c.typeName ∈ s.typeNames ∧ error = .duplicateController c.name) ∨
      (c.typeName ∉ s.typeNames ∧ ∃ bad full e, c.FirstBad bad e ∧ c.HasTemplate bad.1 full ∧
        error = .malformedTemplate c.name full e) ∨
      (c.typeName ∉ s.typeNames ∧ c.Sound ∧ c.LacksFactory ∧ error = .missingFactory c.name) := by
  constructor
  · intro failed
    by_cases taken : c.typeName ∈ s.typeNames
    · rw [register_taken taken] at failed
      exact .inl ⟨taken, by cases failed; rfl⟩
    · rcases c.sound_or_firstBad with sound | ⟨bad, e, first⟩
      · by_cases lacks : c.LacksFactory
        · rw [register_unbuildable taken sound lacks] at failed
          exact .inr (.inr ⟨taken, sound, lacks, by cases failed; rfl⟩)
        · obtain ⟨_, _, _, _, _, registered⟩ := register_complete taken sound lacks
          simp [registered] at failed
      · have written : c.HasTemplate bad.1 _ := Controller.hasTemplate_iff.2 rfl
        rw [register_malformed taken first written] at failed
        exact .inr (.inl ⟨taken, bad, _, e, first, written, by cases failed; rfl⟩)
  · intro cause
    rcases cause with ⟨taken, rfl⟩ | ⟨new, bad, full, e, first, written, rfl⟩ |
      ⟨new, sound, lacks, rfl⟩
    · rw [register_taken taken]
    · rw [register_malformed new first written]
    · rw [register_unbuildable new sound lacks]

/-- What is refused is as if it had never been tried. -/
theorem register_refused {error : RegistrationError}
    (failed : (s.register c).result = .error error) : s.register c = ⟨s, .error error, []⟩ := by
  rcases register_error_iff.1 failed with ⟨taken, rfl⟩ | ⟨new, bad, full, e, first, written, rfl⟩ |
    ⟨new, sound, lacks, rfl⟩
  · exact register_taken taken
  · exact register_malformed new first written
  · exact register_unbuildable new sound lacks

theorem register_ok_iff :
    (s.register c).result = .ok () ↔ c.typeName ∉ s.typeNames ∧ c.Sound ∧ ¬ c.LacksFactory := by
  constructor
  · intro done
    have passed {error} : ¬ (s.register c).result = .error error := by simp [done]
    have new : c.typeName ∉ s.typeNames := fun taken =>
      passed (register_error_iff.2 (.inl ⟨taken, rfl⟩))
    rcases c.sound_or_firstBad with sound | ⟨bad, e, first⟩
    · refine ⟨new, sound, fun lacks => ?_⟩
      exact passed (register_error_iff.2 (.inr (.inr ⟨new, sound, lacks, rfl⟩)))
    · have written : c.HasTemplate bad.1 _ := Controller.hasTemplate_iff.2 rfl
      exact absurd (register_error_iff.2 (.inr (.inl ⟨new, bad, _, e, first, written, rfl⟩))) passed
  · rintro ⟨new, sound, has⟩
    obtain ⟨_, _, _, _, _, registered⟩ := register_complete new sound has
    rw [registered]

/-- A registration adds members, their types and commands at the end and gives the world that the
factory leaves, or does nothing. -/
theorem register_frame (s : Service ι σ ω) (c : Controller ι σ ω) :
    ∃ members typeNames commands world, (s.register c).service =
      { s with
        members := s.members ++ members
        typeNames := s.typeNames ++ typeNames
        commands := s.commands ++ commands
        world := world } := by
  cases ended : (s.register c).result with
  | error e => exact ⟨[], [], [], s.world, by simp [register_refused ended]⟩
  | ok _ =>
    obtain ⟨new, sound, has⟩ := register_ok_iff.1 ended
    obtain ⟨_, _, _, _, _, registered⟩ := register_complete new sound has
    rw [registered]
    exact ⟨_, _, _, _, rfl⟩

theorem addParser_frame (s : Service ι σ ω) (p : Parser ι) :
    ∃ registry, (s.addParser p).service = { s with registry := registry } := by
  unfold addParser
  cases s.registry.add p with
  | error e => exact ⟨s.registry, rfl⟩
  | ok registry => exact ⟨registry, rfl⟩

/-- Registration is all or nothing, and its errors come in a fixed order. -/
theorem register_all_or_nothing (s : Service ι σ ω) (c : Controller ι σ ω) :
    ((s.register c).result = .ok () ↔
      c.typeName ∉ s.typeNames ∧ c.Sound ∧ ¬ c.LacksFactory) ∧
    (∀ error, (s.register c).result = .error error ↔
      (c.typeName ∈ s.typeNames ∧ error = .duplicateController c.name) ∨
      (c.typeName ∉ s.typeNames ∧ ∃ bad full e, c.FirstBad bad e ∧ c.HasTemplate bad.1 full ∧
        error = .malformedTemplate c.name full e) ∨
      (c.typeName ∉ s.typeNames ∧ c.Sound ∧ c.LacksFactory ∧ error = .missingFactory c.name)) ∧
    (∀ error, (s.register c).result = .error error →
      (s.register c).service = s ∧ (s.register c).events = []) ∧
    ((s.register c).result = .ok () → ∃ commands,
      (s.register c).service.commands = s.commands ++ commands ∧
      List.Forall₂ (c.Yields s.members.length) c.routes commands) := by
  refine ⟨register_ok_iff, fun error => register_error_iff, fun error failed => ?_, fun done => ?_⟩
  · rw [register_refused failed]
    exact ⟨rfl, rfl⟩
  · obtain ⟨new, sound, has⟩ := register_ok_iff.1 done
    obtain ⟨commands, _, _, yields, _, registered⟩ := register_complete new sound has
    exact ⟨commands, by rw [registered], yields⟩

end Service
end Phrasebook
