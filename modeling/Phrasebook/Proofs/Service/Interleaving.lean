import Phrasebook.Demo.Controllers
import Phrasebook.Proofs.Service.History

/-! Registering controllers and adding parsers do not get in each other's way. Of the parsers a
registration needs to know only what to warn of, and a parser is added without a look at the
controllers. -/
namespace Phrasebook

/-- The warnings of a registration are about the parsers that are there at that moment. -/
def Event.isLasting : Event → Bool
  | .notConvertibleYet _ _ _ => false
  | _ => true

namespace Service

variable {ι σ ω : Type} [HostTypes ι]

/-- Some acts register controllers and add parsers, each in their own order. -/
inductive Interleaves :
    List (Controller ι σ ω) → List (Parser ι) → List (Act ι σ ω) → Prop
  | done : Interleaves [] [] []
  | register {cs : List (Controller ι σ ω)} {ps : List (Parser ι)} {acts : List (Act ι σ ω)}
      (c : Controller ι σ ω) :
      Interleaves cs ps acts → Interleaves (c :: cs) ps (.register c :: acts)
  | addParser {cs : List (Controller ι σ ω)} {ps : List (Parser ι)} {acts : List (Act ι σ ω)}
      (p : Parser ι) :
      Interleaves cs ps acts → Interleaves cs (p :: ps) (.addParser p :: acts)

def withRegistry (s : Service ι σ ω) (registry : Registry ι) : Service ι σ ω :=
  { s with registry := registry }

variable [DecidableEq ι]

/-- The answer to a registration, with its events but for the warnings. -/
def Moment.registration? (m : Moment ι σ ω) :
    Option (Except RegistrationError Unit × List Event) :=
  match m.act with
  | .register c =>
    some ((m.before.register c).result, (m.before.register c).events.filter Event.isLasting)
  | _ => none

/-- The answer to the addition of a parser, with its events. -/
def Moment.addition? (m : Moment ι σ ω) : Option (Except RegistrationError Unit × List Event) :=
  match m.act with
  | .addParser p => some ((m.before.addParser p).result, (m.before.addParser p).events)
  | _ => none

def registrations (s : Service ι σ ω) (acts : List (Act ι σ ω)) :
    List (Except RegistrationError Unit × List Event) :=
  (s.moments acts).filterMap Moment.registration?

def additions (s : Service ι σ ω) (acts : List (Act ι σ ω)) :
    List (Except RegistrationError Unit × List Event) :=
  (s.moments acts).filterMap Moment.addition?

section Cons

variable (s : Service ι σ ω) (c : Controller ι σ ω) (p : Parser ι) (acts : List (Act ι σ ω))

theorem registrations_register : s.registrations (.register c :: acts) =
    ((s.register c).result, (s.register c).events.filter Event.isLasting) ::
      (s.register c).service.registrations acts := rfl

theorem registrations_addParser : s.registrations (.addParser p :: acts) =
    (s.addParser p).service.registrations acts := rfl

theorem additions_register : s.additions (.register c :: acts) =
    (s.register c).service.additions acts := rfl

theorem additions_addParser : s.additions (.addParser p :: acts) =
    ((s.addParser p).result, (s.addParser p).events) ::
      (s.addParser p).service.additions acts := rfl

theorem after_register : s.after (.register c :: acts) = (s.register c).service.after acts := rfl

theorem after_addParser : s.after (.addParser p :: acts) = (s.addParser p).service.after acts := rfl

end Cons

section Registrations

theorem lasting_registrationEvents (s : Service ι σ ω) (name : Text)
    (commands : List (Command ι)) :
    (s.registrationEvents name commands).filter Event.isLasting =
      .controllerRegistered name commands.length ::
        commands.map fun c => .routeRegistered c.controllerName c.route := by
  rw [registrationEvents, List.filter_cons_of_pos rfl]
  congr 1
  induction commands with
  | nil => rfl
  | cons c commands ih =>
    rw [List.flatMap_cons, List.filter_append, ih, commandEvents, List.filter_cons_of_pos rfl]
    have warnings : ((c.params.filter fun p => !s.registry.canConvert p.kind.type).map fun p =>
        Event.notConvertibleYet c.route p.name p.kind.name).filter Event.isLasting = [] := by
      simp only [List.filter_eq_nil_iff, List.mem_map, forall_exists_index, and_imp]
      rintro _ p _ rfl
      exact Bool.false_ne_true
    rw [warnings]
    rfl

variable (s : Service ι σ ω) (registry : Registry ι) (c : Controller ι σ ω)

/-- A registration leaves the parsers alone, and its answer does not depend on them. -/
theorem register_withRegistry :
    ((s.withRegistry registry).register c).service =
        (s.register c).service.withRegistry registry ∧
      ((s.withRegistry registry).register c).result = (s.register c).result ∧
      ((s.withRegistry registry).register c).events.filter Event.isLasting =
        (s.register c).events.filter Event.isLasting := by
  unfold register
  have known : (s.withRegistry registry).knows c.typeName = s.knows c.typeName := rfl
  rw [known]
  split
  · exact ⟨rfl, rfl, rfl⟩
  · have place : (s.withRegistry registry).members.length = s.members.length := rfl
    rw [place]
    cases c.compile s.members.length c.routes with
    | error e => exact ⟨rfl, rfl, rfl⟩
    | ok commands =>
      have world : (s.withRegistry registry).world = s.world := rfl
      dsimp only
      rw [world]
      cases c.instantiate s.world with
      | error e => exact ⟨rfl, rfl, rfl⟩
      | ok made =>
        refine ⟨rfl, rfl, ?_⟩
        exact (lasting_registrationEvents _ c.name commands).trans
          (lasting_registrationEvents s c.name commands).symm

variable (cs : List (Controller ι σ ω))

theorem after_withRegistry :
    (s.withRegistry registry).after (cs.map .register) =
      (s.after (cs.map .register)).withRegistry registry := by
  induction cs generalizing s with
  | nil => rfl
  | cons c cs ih =>
    rw [List.map_cons, after_register, after_register, (s.register_withRegistry registry c).1, ih]

theorem registrations_withRegistry :
    (s.withRegistry registry).registrations (cs.map .register) =
      s.registrations (cs.map .register) := by
  induction cs generalizing s with
  | nil => rfl
  | cons c cs ih =>
    obtain ⟨service, result, events⟩ := s.register_withRegistry registry c
    rw [List.map_cons, registrations_register, registrations_register, service, result, events, ih]

end Registrations

section Additions

variable {s t : Service ι σ ω}

/-- A parser is refused or added by what the registry holds. -/
theorem addParser_of_registry (same : s.registry = t.registry) (p : Parser ι) :
    (s.addParser p).service.registry = (t.addParser p).service.registry ∧
      (s.addParser p).result = (t.addParser p).result ∧
      (s.addParser p).events = (t.addParser p).events := by
  unfold addParser
  rw [same]
  cases t.registry.add p with
  | error e => exact ⟨same, rfl, rfl⟩
  | ok registry => exact ⟨rfl, rfl, rfl⟩

theorem additions_of_registry (same : s.registry = t.registry) (ps : List (Parser ι)) :
    (s.after (ps.map .addParser)).registry = (t.after (ps.map .addParser)).registry ∧
      s.additions (ps.map .addParser) = t.additions (ps.map .addParser) := by
  induction ps generalizing s t with
  | nil => exact ⟨same, rfl⟩
  | cons p ps ih =>
    obtain ⟨registry, result, events⟩ := addParser_of_registry same p
    obtain ⟨last, later⟩ := ih registry
    refine ⟨last, ?_⟩
    rw [List.map_cons, additions_addParser, additions_addParser, result, events, later]

theorem register_registry (s : Service ι σ ω) (c : Controller ι σ ω) :
    (s.register c).service.registry = s.registry := by
  obtain ⟨_, _, _, _, registered⟩ := register_frame s c
  rw [registered]

end Additions

section Interleaves

variable {cs : List (Controller ι σ ω)} {ps : List (Parser ι)} {acts : List (Act ι σ ω)}

/-- However they are interleaved, the controllers come to what they come to alone, and so do the
parsers. -/
theorem Interleaves.after_eq (h : Interleaves cs ps acts) (s : Service ι σ ω) :
    s.after acts = (s.after (cs.map .register)).withRegistry
      (s.after (ps.map .addParser)).registry := by
  induction h generalizing s with
  | done => rfl
  | @register cs ps acts c _ ih =>
    have parsers := (additions_of_registry (s.register_registry c) ps).1
    rw [after_register, ih, parsers, List.map_cons, after_register]
  | @addParser cs ps acts p _ ih =>
    obtain ⟨registry, added⟩ := s.addParser_frame p
    have controllers : (s.addParser p).service.after (cs.map .register) =
        (s.after (cs.map .register)).withRegistry registry :=
      added ▸ s.after_withRegistry registry cs
    rw [after_addParser, ih, controllers, List.map_cons, after_addParser]
    rfl

theorem Interleaves.registrations_eq (h : Interleaves cs ps acts) (s : Service ι σ ω) :
    s.registrations acts = s.registrations (cs.map .register) := by
  induction h generalizing s with
  | done => rfl
  | register c _ ih => rw [registrations_register, ih, List.map_cons, registrations_register]
  | @addParser cs ps acts p _ ih =>
    obtain ⟨registry, added⟩ := s.addParser_frame p
    have controllers : (s.addParser p).service.registrations (cs.map .register) =
        s.registrations (cs.map .register) := added ▸ s.registrations_withRegistry registry cs
    rw [registrations_addParser, ih, controllers]

theorem Interleaves.additions_eq (h : Interleaves cs ps acts) (s : Service ι σ ω) :
    s.additions acts = s.additions (ps.map .addParser) := by
  induction h generalizing s with
  | done => rfl
  | @register cs ps acts c _ ih =>
    have parsers := (additions_of_registry (s.register_registry c) ps).2
    rw [additions_register, ih, parsers]
  | addParser p _ ih => rw [additions_addParser, ih, List.map_cons, additions_addParser]

end Interleaves

/-- Two interleavings of the same registrations and additions answer each of them alike, refusals
included, and come to one and the same service, so nothing that is done later can tell them apart.
Only the warnings about parameters that cannot be converted yet may differ. -/
theorem interleavings_agree {s : Service ι σ ω} {cs : List (Controller ι σ ω)}
    {ps : List (Parser ι)} {acts others : List (Act ι σ ω)} (one : Interleaves cs ps acts)
    (other : Interleaves cs ps others) :
    s.registrations acts = s.registrations others ∧ s.additions acts = s.additions others ∧
      s.after acts = s.after others := by
  refine ⟨?_, ?_, ?_⟩
  · rw [one.registrations_eq, other.registrations_eq]
  · rw [one.additions_eq, other.additions_eq]
  · rw [one.after_eq, other.after_eq]

/-- The same controller twice and its parser twice, of which the second ones are refused: there is one
warning if the controller comes first, and none if the parser does. -/
theorem parser_overtakes_controller :
    let s : Demo.DemoService := new ⟨[], .scripted []⟩
    let acts := [.register Demo.ages, .register Demo.ages, .addParser Demo.agesParser,
      .addParser Demo.agesParser]
    let others := [.addParser Demo.agesParser, .register Demo.ages, .addParser Demo.agesParser,
      .register Demo.ages]
    let cs := [Demo.ages, Demo.ages]
    let ps := [Demo.agesParser, Demo.agesParser]
    Interleaves cs ps acts ∧ Interleaves cs ps others ∧
      s.registrations acts = s.registrations others ∧ s.additions acts = s.additions others ∧
      s.after acts = s.after others ∧
      (s.registrations acts).map (·.1.isOk) = [true, false] ∧
      (s.additions acts).map (·.1.isOk) = [true, false] ∧
      (s.events acts).length = (s.events others).length + 1 := by
  intro s acts others cs ps
  have one : Interleaves cs ps acts :=
    .register _ (.register _ (.addParser _ (.addParser _ .done)))
  have other : Interleaves cs ps others :=
    .addParser _ (.register _ (.addParser _ (.register _ .done)))
  obtain ⟨registrations, additions, same⟩ := interleavings_agree (s := s) one other
  exact ⟨one, other, registrations, additions, same, by decide, by decide, by decide⟩

end Service
end Phrasebook
