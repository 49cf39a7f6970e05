import Phrasebook.Demo.Controllers
import Phrasebook.Proofs.Service.Declared
import Phrasebook.Proofs.Service.Instances

/-! When factories are called: once for a shared instance that is built when its controller is
registered, and once for each call on a controller with an instance per command. Any log that the
factories keep in the world says so, call by call. -/
namespace Phrasebook

namespace Controller

variable {ι σ ω : Type} [HostTypes ι]

/-- The type of the instance that a registration builds. -/
def firstBuilt? (c : Controller ι σ ω) : Option Text :=
  match c.source, c.perCommand with
  | .factory _, false => some c.typeName
  | _, _ => none

/-- The factory of the controller enters each of its calls in the log, and the handlers leave the
log alone. -/
structure Logs (log : ω → List Text) (c : Controller ι σ ω) : Prop where
  factory : ∀ build, c.source = .factory build → ∀ world,
    log (build world).2 = log world ++ [c.typeName]
  handlers : ∀ handler ∈ c.handlers, ∀ context arguments state world,
    log (handler context arguments state world).world = log world

end Controller

namespace Service

variable {ι σ ω : Type} [HostTypes ι]

/-- Only factories write the log. -/
def Act.Logs (log : ω → List Text) : Act ι σ ω → Prop
  | .register c => c.Logs log
  | .update change => ∀ world, log (change world) = log world
  | _ => True

/-- An instance per command is built by the factory of the controller that was accepted. -/
def Equipped (s : Service ι σ ω) (controllers : List (Controller ι σ ω)) : Prop :=
  ∀ (place : Nat) (m : Member ι σ ω) (build : ω → σ × ω), s.members[place]? = some m →
    m.current = .perCommand build →
    ∃ c : Controller ι σ ω, controllers[place]? = some c ∧ c.source = .factory build

theorem new_equipped (world : ω) : Equipped (new world : Service ι σ ω) [] :=
  fun _ _ _ there => by simp [new] at there

variable [DecidableEq ι]

/-- The type of the instance that is built at this moment, if one is. -/
def Moment.built? (m : Moment ι σ ω) : Option Text :=
  match m.act with
  | .register _ => m.accepted?.bind Controller.firstBuilt?
  | .execute line? => (m.before.call? line?).bind fun k =>
      match k.member.current with
      | .shared _ => none
      | .perCommand _ => m.before.typeNames[k.command.controller]?
  | _ => none

/-- The types of the instances that some acts build. -/
def built (s : Service ι σ ω) (acts : List (Act ι σ ω)) : List Text :=
  (s.moments acts).filterMap Moment.built?

theorem built_cons (s : Service ι σ ω) (act : Act ι σ ω) (acts : List (Act ι σ ω)) :
    s.built (act :: acts) = (Moment.built? ⟨s, act⟩).toList ++ (s.done act).built acts := by
  rw [built, moments, List.filterMap_cons]
  cases Moment.built? ⟨s, act⟩ <;> rfl

section Equipped

variable {s : Service ι σ ω} {controllers : List (Controller ι σ ω)} {c : Controller ι σ ω}
  {act : Act ι σ ω}

theorem accepted?_eq_some_iff :
    Moment.accepted? ⟨s, act⟩ = some c ↔
      act = .register c ∧ (s.register c).result = .ok () := by
  cases act with
  | register d =>
    cases ended : (s.register d).result with
    | ok _ =>
      simp only [Moment.accepted?, ended, Except.toOption, Option.map_some, Option.some.injEq,
        Act.register.injEq]
      constructor
      · rintro rfl
        exact ⟨rfl, ended⟩
      · exact And.left
    | error e =>
      simp only [Moment.accepted?, ended, Except.toOption, Option.map_none, Act.register.injEq]
      constructor
      · intro none
        cases none
      · rintro ⟨rfl, ok⟩
        cases ended.symm.trans ok
  | _ => simp [Moment.accepted?]

theorem Equipped.done (equipped : Equipped s controllers) (composed : Composed s controllers)
    (act : Act ι σ ω) :
    Equipped (s.done act) (controllers ++ (Moment.accepted? ⟨s, act⟩).toList) := by
  intro place m build there current
  have size := composed.size
  by_cases old : place < s.members.length
  · have before : s.members[place]? = some s.members[place] := List.getElem?_eq_getElem old
    cases (done_member before act).symm.trans there
    obtain ⟨c, registered, source⟩ :=
      equipped place _ build before (Instance.worked_eq_perCommand_iff.1 current)
    exact ⟨c, by rw [List.getElem?_append_left (size ▸ old), registered], source⟩
  · -- the place is new, so the act has registered the controller there
    have inside := (List.getElem?_eq_some_iff.1 there).1
    have grown := (composed.done act).size
    cases accepted : Moment.accepted? ⟨s, act⟩ with
    | none =>
      simp only [accepted, Option.toList_none, List.append_nil] at grown
      omega
    | some c =>
      obtain ⟨rfl, ok⟩ := accepted?_eq_some_iff.1 accepted
      obtain ⟨first, world, starts, _, members⟩ := register_starts ok
      have last : place = s.members.length := by
        simp only [accepted, Option.toList_some, List.length_append, List.length_singleton] at grown
        omega
      subst last
      rw [Service.done, members, List.getElem?_concat_length] at there
      cases there
      refine ⟨c, by rw [size]; simp, ?_⟩
      cases starts with
      | given => cases current
      | built => cases current
      | perCommand source _ =>
        cases current
        exact source

end Equipped

section Log

variable {log : ω → List Text} {s : Service ι σ ω} {controllers : List (Controller ι σ ω)}

theorem register_log {c : Controller ι σ ω} (logs : c.Logs log) :
    log (s.register c).service.world =
      log s.world ++ (Moment.built? ⟨s, .register c⟩).toList := by
  cases ended : (s.register c).result with
  | error e =>
    have none : Moment.built? ⟨s, .register c⟩ = none := by
      simp [Moment.built?, Moment.accepted?, ended, Except.toOption]
    rw [none, register_refused ended]
    simp
  | ok _ =>
    obtain ⟨current, world, starts, after, _⟩ := register_starts ended
    have first : Moment.built? ⟨s, .register c⟩ = c.firstBuilt? := by
      rw [Moment.built?, accepted?_eq_some_iff.2 ⟨rfl, ended⟩]
      rfl
    rw [first, after, Controller.firstBuilt?]
    cases starts with
    | given source policy => simp [source]
    | built source policy =>
      simp only [source, policy]
      exact logs.factory _ source s.world
    | perCommand source policy => simp [source, policy]

theorem received_log (composed : Composed s controllers) (equipped : Equipped s controllers)
    (logs : ∀ c ∈ controllers, c.Logs log) (line? : Option Text) :
    log (s.received line?).service.world =
      log s.world ++ (Moment.built? ⟨s, .execute line?⟩).toList := by
  cases called : s.call? line? with
  | none =>
    rw [received_of_no_call called]
    simp [Moment.built?, called]
  | some k =>
    have member := call?_member called
    have inside := composed.size ▸ (List.getElem?_eq_some_iff.1 member).1
    have registered : controllers[k.command.controller]? = some controllers[k.command.controller] :=
      List.getElem?_eq_getElem inside
    have keeper := logs _ (List.getElem_mem inside)
    have handles : k.handler ∈ controllers[k.command.controller].handlers := by
      obtain ⟨_, there, _, handlers⟩ := composed.member registered
      cases member.symm.trans there
      have found := (call?_eq_some_iff.1 called).2.2.2
      exact handlers ▸ List.mem_of_getElem? (handler?_eq_some_iff.1 found).2
    have quiet (state : σ) (world : ω) : log (k.reply s state world).world = log world :=
      keeper.handlers _ handles _ _ state world
    cases current : k.member.current with
    | shared state =>
      have none : Moment.built? ⟨s, .execute line?⟩ = none := by
        simp [Moment.built?, called, current]
      rw [received_shared called current, none]
      exact (quiet state s.world).trans (List.append_nil _).symm
    | perCommand build =>
      obtain ⟨c, same, source⟩ := equipped _ _ _ member current
      cases registered.symm.trans same
      have one : Moment.built? ⟨s, .execute line?⟩ =
          some controllers[k.command.controller].typeName := by
        simp [Moment.built?, called, current, composed.typeNames, registered]
      rw [received_perCommand called current, one]
      exact (quiet _ _).trans (keeper.factory _ source s.world)

theorem done_log (composed : Composed s controllers) (equipped : Equipped s controllers)
    (logs : ∀ c ∈ controllers, c.Logs log) {act : Act ι σ ω} (here : act.Logs log) :
    log (s.done act).world = log s.world ++ (Moment.built? ⟨s, act⟩).toList := by
  cases act with
  | register c => exact register_log here
  | addParser p =>
    obtain ⟨registry, added⟩ := addParser_frame s p
    rw [done, added]
    exact (List.append_nil _).symm
  | listen listener => exact (List.append_nil _).symm
  | clearExit => exact (List.append_nil _).symm
  | update change => exact (here s.world).trans (List.append_nil _).symm
  | execute line? =>
    obtain ⟨up, flagged⟩ := (s.received line?).flagged_frame
    rw [done, flagged]
    exact received_log composed equipped logs line?

/-- What is accepted on the way keeps the log as well, so the next act can rely on it. -/
theorem after_log (composed : Composed s controllers) (equipped : Equipped s controllers)
    (logs : ∀ c ∈ controllers, c.Logs log) {acts : List (Act ι σ ω)}
    (all : ∀ act ∈ acts, act.Logs log) :
    log (s.after acts).world = log s.world ++ s.built acts := by
  induction acts generalizing s controllers with
  | nil => exact (List.append_nil _).symm
  | cons act acts ih =>
    obtain ⟨here, later⟩ := List.forall_mem_cons.1 all
    have logs' : ∀ c ∈ controllers ++ (Moment.accepted? ⟨s, act⟩).toList, c.Logs log := by
      intro c member
      rcases List.mem_append.1 member with old | new
      · exact logs c old
      · obtain ⟨rfl, _⟩ := accepted?_eq_some_iff.1 (Option.mem_toList.1 new)
        exact here
    rw [after, built_cons, ← List.append_assoc, ← done_log composed equipped logs here]
    exact ih (composed.done act) (equipped.done composed act) logs' later

end Log

/-- Instances are isolated from each other and from everything but calls on them. After any acts, a
shared instance is its first one with the calls made on it, in order, failing handlers included; an
instance per command is built for one call and seen by no other; and a log that the factories keep
lists what was built, registration by registration and call by call. Executing a line, with all that
the listeners do about it, adds acts of the same kind. -/
theorem instances_isolated (world : ω) (acts : List (Act ι σ ω)) :
    let s := (new world).after acts
    Isolated s ∧
    (∀ (place : Nat) (m : Member ι σ ω) more, s.members[place]? = some m →
      (s.after more).members[place]? =
        some { m with current := m.current.worked (s.changes place more) }) ∧
    (∀ log, (∀ act ∈ acts, act.Logs log) → log s.world = log world ++ (new world).built acts) ∧
    (∀ depth line? e, executeWithin depth s line? = some e → ∃ more,
      Does (.line line?) s (.execute line? :: more) e.service ∧
      e.service = (new world).after (acts ++ .execute line? :: more)) := by
  intro s
  refine ⟨s.isolated, fun place m more there => after_member there more, fun log all => ?_,
    fun depth line? e executed => ?_⟩
  · exact after_log (new_composed world) (new_equipped world) nofun all
  · obtain ⟨more, does, same, _⟩ := executeWithin_acts executed
    exact ⟨more, does, by rw [after_append]; exact same⟩

/-- A controller whose factory logs its calls and whose handler counts its calls and fails. -/
def counting (typeName : Text) (route : String) (perCommand : Bool) :
    Controller Demo.HostType Nat (List Text) :=
  { Controller.ofSource typeName (.factory fun log => (0, log ++ [typeName])) with
    perCommand := perCommand }
  |>.bind [{ template := route.toList }] fun _ _ calls log =>
    ⟨calls + 1, log, false, .error ⟨"refused", []⟩⟩

/-- Two calls on a shared instance that is built once, one call on an instance of its own, a second
registration and a line that nothing matches. -/
def tally : List (Act Demo.HostType Nat (List Text)) :=
  [.register (counting ['S'] "shared" false), .register (counting ['E'] "each" true),
    .execute (some "shared".toList), .register (counting ['S'] "again" false),
    .execute (some "each".toList), .execute (some "neither".toList),
    .execute (some "SHARED".toList)]

theorem counting_logs (typeName : Text) (route : String) (perCommand : Bool) :
    (counting typeName route perCommand).Logs id := by
  refine ⟨?_, ?_⟩
  · rintro build ⟨⟩ world
    rfl
  · intro handler member context arguments state world
    cases List.mem_singleton.1 member
    rfl

/-- The shared instance has seen both calls on it, though they failed, and no other call. -/
theorem tally_counts :
    (∀ act ∈ tally, act.Logs id) ∧ ((new []).after tally).world = [['S'], ['E']] ∧
      ∃ m, ((new []).after tally).members[0]? = some m ∧ m.current = .shared 2 := by
  have all : ∀ act ∈ tally, act.Logs id := by
    simp [tally, Act.Logs, counting_logs]
  have logged := (instances_isolated [] tally).2.2.1 id all
  have built : (new []).built tally = [['S'], ['E']] := by decide
  have called := (instances_isolated [] (tally.take 1)).2.1 0 _ (tally.drop 1) rfl
  exact ⟨all, logged.trans (congrArg ([] ++ ·) built), _, called, rfl⟩

end Service
end Phrasebook
