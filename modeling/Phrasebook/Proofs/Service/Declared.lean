import Phrasebook.Proofs.Service.History
import Phrasebook.Proofs.Template.Names

/-! The commands of a service are the routes of the controllers that it has accepted, in the order
of their declaration, and each points at its controller and at the handler it was declared with.
So a command that is dispatched always has its handler called. -/
namespace Phrasebook

/-- Whatever stands on the right of related lists is related to something on the left. -/
theorem exists_mem_of_forall₂ {α β : Type} {R : α → β → Prop} {xs : List α} {ys : List β} {y : β}
    (h : List.Forall₂ R xs ys) (member : y ∈ ys) : ∃ x ∈ xs, R x y := by
  obtain ⟨i, inside, rfl⟩ := List.getElem_of_mem member
  have before : i < xs.length := h.length_eq ▸ inside
  exact ⟨xs[i], List.getElem_mem before, h.get before inside⟩

/-- A route that was declared: in which entry of which controller, and their places. -/
structure Declaration (ι σ ω : Type) [HostTypes ι] where
  controller : Controller ι σ ω
  place : Nat
  entry : Entry ι σ ω
  handler : Nat
  route : Route ι

namespace Controller

variable {ι σ ω : Type} [HostTypes ι]

/-- The routes of a controller that is to take the given place, entry by entry. -/
def declarations (c : Controller ι σ ω) (place : Nat) : List (Declaration ι σ ω) :=
  c.entries.zipIdx.flatMap fun (entry, handler) =>
    entry.routes.map fun route => ⟨c, place, entry, handler, route⟩

theorem routesFrom_eq (k : Nat) (entries : List (Entry ι σ ω)) :
    routesFrom k entries = (entries.zipIdx k).flatMap fun (entry, handler) =>
      entry.routes.map fun route => (route, handler) := by
  induction entries generalizing k with
  | nil => rfl
  | cons entry entries ih => rw [routesFrom, ih, List.zipIdx_cons, List.flatMap_cons]

theorem routes_eq_declarations (c : Controller ι σ ω) (place : Nat) :
    c.routes = (c.declarations place).map fun d => (d.route, d.handler) := by
  rw [routes, routesFrom_eq, declarations, List.map_flatMap]
  simp only [List.map_map]
  rfl

theorem mem_declarations {c : Controller ι σ ω} {place : Nat} {d : Declaration ι σ ω}
    (h : d ∈ c.declarations place) :
    d.controller = c ∧ d.place = place ∧ c.entries[d.handler]? = some d.entry ∧
      d.route ∈ d.entry.routes := by
  obtain ⟨⟨entry, handler⟩, atPlace, member⟩ := List.mem_flatMap.1 h
  obtain ⟨route, bound, rfl⟩ := List.mem_map.1 member
  exact ⟨rfl, rfl, List.mem_zipIdx_iff_getElem?.1 atPlace, bound⟩

theorem forall₂_declarations {c : Controller ι σ ω} {place : Nat} {commands : List (Command ι)}
    (h : List.Forall₂ (c.Yields place) c.routes commands) :
    List.Forall₂ (fun d command => d.controller.Yields d.place (d.route, d.handler) command)
      (c.declarations place) commands := by
  rw [c.routes_eq_declarations place, List.forall₂_map_left_iff] at h
  refine List.forall₂_iff_zip.2 ⟨h.length_eq, fun {d command} paired => ?_⟩
  obtain ⟨rfl, rfl, _⟩ := mem_declarations (List.of_mem_zip paired).1
  exact (List.forall₂_iff_zip.1 h).2 paired

/-- Binding gives the handler the next free place, and this place to each of its routes. -/
theorem routes_bind (c : Controller ι σ ω) (routes : List (Route ι)) (handler : Handler ι σ ω) :
    (c.bind routes handler).handlers = c.handlers ++ [handler] ∧
      (c.bind routes handler).routes = c.routes ++ routes.map (·, c.handlers.length) := by
  constructor
  · simp [bind, handlers]
  · simp [bind, handlers, Controller.routes, routesFrom_eq, List.zipIdx_append]

/-- A handler without routes takes a place too. -/
example (typeName : Text) (source : Source σ ω) (unused used : Handler ι σ ω) (a b : Route ι) :
    (((ofSource typeName source).bind [] unused).bind [a, b] used).routes = [(a, 1), (b, 1)] := rfl

end Controller

namespace Service

variable {ι σ ω : Type} [HostTypes ι]

/-- The declarations of some controllers, each at its place among them. -/
def declarations (controllers : List (Controller ι σ ω)) : List (Declaration ι σ ω) :=
  controllers.zipIdx.flatMap fun (c, place) => c.declarations place

theorem declarations_concat (controllers : List (Controller ι σ ω)) (c : Controller ι σ ω) :
    declarations (controllers ++ [c]) =
      declarations controllers ++ c.declarations controllers.length := by
  simp [declarations, List.zipIdx_append]

theorem mem_declarations {controllers : List (Controller ι σ ω)} {d : Declaration ι σ ω}
    (h : d ∈ declarations controllers) :
    controllers[d.place]? = some d.controller ∧
      d.controller.entries[d.handler]? = some d.entry ∧ d.route ∈ d.entry.routes := by
  obtain ⟨⟨c, place⟩, atPlace, member⟩ := List.mem_flatMap.1 h
  obtain ⟨rfl, rfl, entry, route⟩ := Controller.mem_declarations member
  exact ⟨List.mem_zipIdx_iff_getElem?.1 atPlace, entry, route⟩

/-- A service is made up of the controllers that it has accepted. -/
structure Composed (s : Service ι σ ω) (controllers : List (Controller ι σ ω)) : Prop where
  members : s.members.map fixed = controllers.map fun c => (c.name, c.handlers)
  typeNames : s.typeNames = controllers.map (·.typeName)
  distinct : s.typeNames.Nodup
  commands : List.Forall₂
    (fun d command => d.controller.Yields d.place (d.route, d.handler) command)
    (declarations controllers) s.commands

section Composed

variable {s : Service ι σ ω} {controllers : List (Controller ι σ ω)}

theorem new_composed (world : ω) : Composed (new world : Service ι σ ω) [] :=
  ⟨rfl, rfl, List.nodup_nil, .nil⟩

theorem Composed.size (composed : Composed s controllers) :
    s.members.length = controllers.length := by
  have lengths := congrArg List.length composed.members
  simpa using lengths

/-- The member at a place is the controller accepted there. -/
theorem Composed.member (composed : Composed s controllers) {place : Nat}
    {c : Controller ι σ ω} (registered : controllers[place]? = some c) :
    ∃ m, s.members[place]? = some m ∧ m.name = c.name ∧ m.handlers = c.handlers := by
  have settled : (s.members.map fixed)[place]? = some (c.name, c.handlers) := by
    rw [composed.members, List.getElem?_map, registered]
    rfl
  rw [List.getElem?_map] at settled
  obtain ⟨m, there, same⟩ := Option.map_eq_some_iff.1 settled
  obtain ⟨name, handlers⟩ := Prod.mk.inj same
  exact ⟨m, there, name, handlers⟩

variable [DecidableEq ι]

/-- An accepted controller comes last, and takes the place that its commands were compiled for. -/
theorem Composed.register (composed : Composed s controllers) {c : Controller ι σ ω}
    (accepted : (s.register c).result = .ok ()) :
    Composed (s.register c).service (controllers ++ [c]) := by
  obtain ⟨new, sound, has⟩ := register_ok_iff.1 accepted
  obtain ⟨commands, current, world, yields, _, registered⟩ := register_complete new sound has
  rw [registered]
  refine ⟨?_, ?_, ?_, ?_⟩
  · simp [composed.members, fixed]
  · simp [composed.typeNames]
  · refine List.nodup_append.2 ⟨composed.distinct, List.nodup_cons.2 ⟨nofun, .nil⟩, ?_⟩
    rintro old present _ added rfl
    exact new (List.mem_singleton.1 added ▸ present)
  · rw [declarations_concat, ← composed.size]
    exact List.rel_append composed.commands (Controller.forall₂_declarations yields)

end Composed

/-- A command is what has become of a declaration: it points at the controller and at the handler
of the entry that declares it, and has the full template, with names that its rule tells apart. -/
structure Declared (s : Service ι σ ω) (controllers : List (Controller ι σ ω))
    (d : Declaration ι σ ω) (command : Command ι) : Prop where
  registered : controllers[d.place]? = some d.controller
  entry : d.controller.entries[d.handler]? = some d.entry
  route : d.route ∈ d.entry.routes
  controller : command.controller = d.place
  handler : command.handler = d.handler
  typeName : s.typeNames[command.controller]? = some d.controller.typeName
  found : ∃ m, s.handler? command = some (m, d.entry.handler) ∧ m.name = d.controller.name
  full : d.controller.HasTemplate d.route command.template.source
  compiled : Template.compile command.template.source = .ok command.template
  rule : d.controller.HasRule d.route command.caseRule
  names : Template.Distinct command.caseRule command.template.names

/-- The members and their types go together, no type occurs twice, the commands are the
declarations of the controllers in their order, and every command has a handler to call. -/
structure Consistent (s : Service ι σ ω) (controllers : List (Controller ι σ ω)) : Prop where
  lengths : s.members.length = s.typeNames.length
  typeNames : s.typeNames = controllers.map (·.typeName)
  distinct : s.typeNames.Nodup
  commands : List.Forall₂ (Declared s controllers) (declarations controllers) s.commands
  called : ∀ command ∈ s.commands, ∀ line arguments, ∃ reply after events,
    s.Calls command line arguments reply after ∧
    s.invoke command line arguments = ⟨after, reply.exitRequested, reply.result, events⟩

section Consistent

variable {s : Service ι σ ω} {controllers : List (Controller ι σ ω)}

theorem Composed.declared (composed : Composed s controllers) {d : Declaration ι σ ω}
    {command : Command ι} (member : d ∈ declarations controllers)
    (yields : d.controller.Yields d.place (d.route, d.handler) command) :
    Declared s controllers d command := by
  obtain ⟨registered, entry, route⟩ := mem_declarations member
  obtain ⟨m, there, name, handlers⟩ := composed.member registered
  obtain ⟨full, written, compiled⟩ := yields.template.compiled
  obtain ⟨rule, governed, named⟩ := yields.template.named
  have source := Template.compile_source compiled
  refine ⟨registered, entry, route, yields.controller, yields.handler, ?_, ⟨m, ?_, name⟩,
    source ▸ written, source ▸ compiled, yields.rule, ?_⟩
  · rw [composed.typeNames, yields.controller, List.getElem?_map, registered]
    rfl
  · refine handler?_eq_some_iff.2 ⟨yields.controller ▸ there, ?_⟩
    rw [handlers, yields.handler, Controller.handlers, List.getElem?_map, entry]
    rfl
  · rw [yields.rule.unique governed]
    exact Template.checkNames_eq_ok_iff.1 named

theorem Composed.all_declared (composed : Composed s controllers) :
    List.Forall₂ (Declared s controllers) (declarations controllers) s.commands := by
  refine List.forall₂_iff_zip.2 ⟨composed.commands.length_eq, fun {d command} paired => ?_⟩
  exact composed.declared (List.of_mem_zip paired).1
    ((List.forall₂_iff_zip.1 composed.commands).2 paired)

theorem Composed.placed (composed : Composed s controllers) {command : Command ι}
    (member : command ∈ s.commands) : s.Placed command := by
  obtain ⟨d, _, points⟩ := exists_mem_of_forall₂ composed.all_declared member
  obtain ⟨m, found, _⟩ := points.found
  exact Option.isSome_iff_exists.2 ⟨_, found⟩

theorem Composed.consistent (composed : Composed s controllers) : Consistent s controllers := by
  refine ⟨?_, composed.typeNames, composed.distinct, composed.all_declared,
    fun command member line arguments => ?_⟩
  · rw [composed.size, composed.typeNames, List.length_map]
  · obtain ⟨reply, after, called⟩ := exists_call (composed.placed member) line arguments
    obtain ⟨events, invoked⟩ := called.invoke_eq
    exact ⟨reply, after, events, called, invoked⟩

end Consistent

/-- The controller that an act registers, unless it is refused. -/
def Moment.accepted? [DecidableEq ι] (m : Moment ι σ ω) : Option (Controller ι σ ω) :=
  match m.act with
  | .register c => (m.before.register c).result.toOption.map fun _ => c
  | _ => none

variable [DecidableEq ι]

/-- The controllers that are registered by some acts, refused ones left out. -/
def accepted (s : Service ι σ ω) (acts : List (Act ι σ ω)) : List (Controller ι σ ω) :=
  (s.moments acts).filterMap Moment.accepted?

theorem accepted_cons (s : Service ι σ ω) (act : Act ι σ ω) (acts : List (Act ι σ ω)) :
    s.accepted (act :: acts) =
      (Moment.accepted? ⟨s, act⟩).toList ++ (s.done act).accepted acts := by
  rw [accepted, moments, List.filterMap_cons]
  cases Moment.accepted? ⟨s, act⟩ <;> rfl

section History

variable {s : Service ι σ ω} {controllers : List (Controller ι σ ω)}

/-- Acts that accept no controller leave alone what a service is made up of. -/
theorem Composed.quiet (composed : Composed s controllers) {act : Act ι σ ω}
    (quiet : Moment.accepted? ⟨s, act⟩ = none)
    (members : (s.done act).members.map fixed = s.members.map fixed)
    (typeNames : (s.done act).typeNames = s.typeNames)
    (commands : (s.done act).commands = s.commands) :
    Composed (s.done act) (controllers ++ (Moment.accepted? ⟨s, act⟩).toList) := by
  rw [quiet, Option.toList_none, List.append_nil]
  exact ⟨members.trans composed.members, typeNames.trans composed.typeNames,
    typeNames ▸ composed.distinct, commands ▸ composed.commands⟩

theorem Composed.done (composed : Composed s controllers) (act : Act ι σ ω) :
    Composed (s.done act) (controllers ++ (Moment.accepted? ⟨s, act⟩).toList) := by
  cases act with
  | register c =>
    cases ended : (s.register c).result with
    | ok _ =>
      have accepted : Moment.accepted? ⟨s, .register c⟩ = some c := by
        simp [Moment.accepted?, ended, Except.toOption]
      rw [accepted]
      exact composed.register ended
    | error e =>
      have same : s.done (.register c) = s := by rw [Service.done, register_refused ended]
      refine composed.quiet ?_ ?_ ?_ ?_
      · simp [Moment.accepted?, ended, Except.toOption]
      all_goals rw [same]
  | addParser p =>
    obtain ⟨registry, added⟩ := addParser_frame s p
    have same : s.done (.addParser p) = { s with registry := registry } := added
    refine composed.quiet rfl ?_ ?_ ?_ <;> rw [same]
  | listen listener => exact composed.quiet rfl rfl rfl rfl
  | clearExit => exact composed.quiet rfl rfl rfl rfl
  | update change => exact composed.quiet rfl rfl rfl rfl
  | execute line? =>
    have keeps := received_keeps s line?
    obtain ⟨up, flagged⟩ := (s.received line?).flagged_frame
    have same : s.done (.execute line?) =
        { (s.received line?).service with exitRequested := up } := flagged
    refine composed.quiet rfl ?_ ?_ ?_ <;> rw [same]
    · exact keeps.members
    · exact keeps.typeNames
    · exact keeps.commands

theorem Composed.after (composed : Composed s controllers) (acts : List (Act ι σ ω)) :
    Composed (s.after acts) (controllers ++ s.accepted acts) := by
  induction acts generalizing s controllers with
  | nil =>
    rw [after, accepted, moments, List.filterMap_nil, List.append_nil]
    exact composed
  | cons act acts ih =>
    rw [accepted_cons, ← List.append_assoc]
    exact ih (composed.done act)

theorem accepted_append (s : Service ι σ ω) (acts more : List (Act ι σ ω)) :
    s.accepted (acts ++ more) = s.accepted acts ++ (s.after acts).accepted more := by
  simp [accepted]

/-- Only a registration can have a controller accepted. -/
theorem accepted_eq_nil {acts : List (Act ι σ ω)} (unregistered : ∀ c, .register c ∉ acts) :
    s.accepted acts = [] := by
  refine List.filterMap_eq_nil_iff.2 fun m member => ?_
  unfold Moment.accepted?
  split
  · next c act => exact absurd (act ▸ act_of_mem_moments member) (unregistered c)
  · rfl

end History

/-- Whatever is done to a new service, it is consistent with the controllers that it has accepted
so far. It remains so when a line is executed: listeners may register controllers of their own, and
those that are accepted come after the others; if they register none, the controllers stay the same.
The places that handlers have in a controller are those that binding gave them. -/
theorem after_new_consistent (world : ω) (acts : List (Act ι σ ω)) :
    Consistent ((new world).after acts) ((new world).accepted acts) ∧
    (∀ depth line? e, executeWithin depth ((new world).after acts) line? = some e → ∃ more,
      Does (.line line?) ((new world).after acts) (.execute line? :: more) e.service ∧
      e.service = (new world).after (acts ++ .execute line? :: more) ∧
      Consistent e.service ((new world).accepted (acts ++ .execute line? :: more)) ∧
      (new world).accepted acts <+: (new world).accepted (acts ++ .execute line? :: more) ∧
      ((∀ c, .register c ∉ more) → Consistent e.service ((new world).accepted acts))) ∧
    (∀ (c : Controller ι σ ω) routes handler,
      (c.bind routes handler).handlers = c.handlers ++ [handler] ∧
      (c.bind routes handler).routes = c.routes ++ routes.map (·, c.handlers.length)) := by
  have composed := (new_composed world).after acts
  refine ⟨composed.consistent, fun depth line? e executed => ?_, Controller.routes_bind⟩
  obtain ⟨more, does, same, _⟩ := executeWithin_acts executed
  have whole : e.service = (new world).after (acts ++ .execute line? :: more) := by
    rw [same, after_append]
  have later : Composed e.service ((new world).accepted (acts ++ .execute line? :: more)) :=
    whole ▸ (new_composed world).after (acts ++ .execute line? :: more)
  refine ⟨more, does, whole, later.consistent, ?_, fun unregistered => ?_⟩
  · rw [accepted_append]
    exact List.prefix_append _ _
  · have none : ((new world).after acts).accepted (.execute line? :: more) = [] :=
      accepted_eq_nil (by simpa using unregistered)
    rw [accepted_append, none, List.append_nil] at later
    exact later.consistent

end Service
end Phrasebook
