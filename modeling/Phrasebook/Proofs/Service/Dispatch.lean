import Phrasebook.Service.Dispatch

/-! What a dispatch does, said once: which command it picks, what one call of a handler changes,
and what it leaves alone. -/
namespace Phrasebook

/-- The instance that a handler is called on, and the world that it finds: the shared instance as it
is, or one that is built first. -/
def Instance.start {σ ω : Type} : Instance σ ω → ω → σ × ω
  | .shared state, world => (state, world)
  | .perCommand build, world => build world

namespace Service

variable {ι σ ω : Type} [HostTypes ι]

/-- The command at place `i` matches the line, and none before it does. -/
structure FirstAt (line : Text) (commands : List (Command ι)) (i : Nat) (c : Command ι)
    (captures : Captures) : Prop where
  here : commands[i]? = some c
  matched : c.match? line = some captures
  first : ∀ j d, j < i → commands[j]? = some d → d.match? line = none

theorem firstAt_zero {line : Text} {commands : List (Command ι)} {c : Command ι}
    {captures : Captures} (matched : c.match? line = some captures) :
    FirstAt line (c :: commands) 0 c captures :=
  ⟨rfl, matched, fun _ _ before => absurd before (Nat.not_lt_zero _)⟩

theorem firstAt_succ_iff {line : Text} {commands : List (Command ι)} {c d : Command ι} {i : Nat}
    {captures : Captures} :
    FirstAt line (d :: commands) (i + 1) c captures ↔
      d.match? line = none ∧ FirstAt line commands i c captures := by
  constructor
  · intro h
    refine ⟨h.first 0 d (Nat.succ_pos i) rfl, h.here, h.matched, fun j e before atPlace => ?_⟩
    exact h.first (j + 1) e (Nat.succ_lt_succ before) atPlace
  · rintro ⟨unmatched, h⟩
    refine ⟨h.here, h.matched, fun j e before atPlace => ?_⟩
    cases j with
    | zero => cases atPlace; exact unmatched
    | succ j => exact h.first j e (Nat.lt_of_succ_lt_succ before) atPlace

theorem FirstAt.unique {line : Text} {commands : List (Command ι)} {i j : Nat} {c d : Command ι}
    {captures others : Captures} (here : FirstAt line commands i c captures)
    (there : FirstAt line commands j d others) : i = j := by
  rcases Nat.lt_trichotomy i j with before | same | after
  · cases (there.first i c before here.here).symm.trans here.matched
  · exact same
  · cases (here.first j d after there.here).symm.trans there.matched

theorem firstMatch?_eq_some_iff {line : Text} {commands : List (Command ι)} {c : Command ι}
    {captures : Captures} :
    firstMatch? line commands = some (c, captures) ↔ ∃ i, FirstAt line commands i c captures := by
  induction commands with
  | nil =>
    refine ⟨nofun, fun ⟨i, h⟩ => ?_⟩
    simpa using h.here
  | cons d commands ih =>
    unfold firstMatch?
    cases tried : d.match? line with
    | some found =>
      constructor
      · intro same
        cases same
        exact ⟨0, firstAt_zero tried⟩
      · rintro ⟨i, h⟩
        cases i with
        | zero =>
          cases h.here
          cases tried.symm.trans h.matched
          rfl
        | succ i => exact nomatch tried.symm.trans (firstAt_succ_iff.1 h).1
    | none =>
      rw [ih]
      constructor
      · rintro ⟨i, h⟩
        exact ⟨i + 1, firstAt_succ_iff.2 ⟨tried, h⟩⟩
      · rintro ⟨i, h⟩
        cases i with
        | zero => cases h.here; exact nomatch tried.symm.trans h.matched
        | succ i => exact ⟨i, (firstAt_succ_iff.1 h).2⟩

theorem firstMatch?_eq_none_iff {line : Text} {commands : List (Command ι)} :
    firstMatch? line commands = none ↔ ∀ c ∈ commands, c.match? line = none := by
  induction commands with
  | nil => simp [firstMatch?]
  | cons d commands ih =>
    unfold firstMatch?
    cases tried : d.match? line with
    | some found => simp [tried]
    | none => simp [tried, ih]

/-- One call of the handler of a command, its reply, and the service after it. The handler works
on the shared instance, or on one built for this call and given up after it. -/
inductive Calls (s : Service ι σ ω) (c : Command ι) (line : Text) (arguments : Arguments ι) :
    Reply σ ω (Option Json) → Service ι σ ω → Prop
  | shared {m : Member ι σ ω} {handler : Handler ι σ ω} {state : σ}
      {reply : Reply σ ω (Option Json)} :
      s.members[c.controller]? = some m → m.handlers[c.handler]? = some handler →
      m.current = .shared state →
      handler (s.context c line) arguments state s.world = reply →
      Calls s c line arguments reply
        { s with
          members := s.members.set c.controller { m with current := .shared reply.state }
          world := reply.world }
  | perCommand {m : Member ι σ ω} {handler : Handler ι σ ω} {build : ω → σ × ω}
      {reply : Reply σ ω (Option Json)} :
      s.members[c.controller]? = some m → m.handlers[c.handler]? = some handler →
      m.current = .perCommand build →
      handler (s.context c line) arguments (build s.world).1 (build s.world).2 = reply →
      Calls s c line arguments reply { s with world := reply.world }

/-- The controller and the handler of the command are there. -/
def Placed (s : Service ι σ ω) (c : Command ι) : Prop := (s.handler? c).isSome

variable {s : Service ι σ ω} {c : Command ι} {line : Text} {arguments : Arguments ι}

theorem handler?_eq_some_iff {m : Member ι σ ω} {handler : Handler ι σ ω} :
    s.handler? c = some (m, handler) ↔
      s.members[c.controller]? = some m ∧ m.handlers[c.handler]? = some handler := by
  unfold handler?
  cases member : s.members[c.controller]? with
  | none => simp
  | some n =>
    constructor
    · intro h
      obtain ⟨found, atPlace, same⟩ := Option.map_eq_some_iff.1 h
      cases same
      exact ⟨rfl, atPlace⟩
    · rintro ⟨same, atPlace⟩
      cases same
      simp [atPlace]

theorem Calls.invoke_eq {reply : Reply σ ω (Option Json)} {after : Service ι σ ω}
    (h : s.Calls c line arguments reply after) :
    ∃ events, s.invoke c line arguments = ⟨after, reply.exitRequested, reply.result, events⟩ := by
  cases h with
  | shared member atPlace current called =>
    have found := handler?_eq_some_iff.2 ⟨member, atPlace⟩
    exact ⟨_, by simp only [invoke, found, current, called]; rfl⟩
  | perCommand member atPlace current called =>
    have found := handler?_eq_some_iff.2 ⟨member, atPlace⟩
    exact ⟨_, by simp only [invoke, found, current, called]; rfl⟩

theorem exists_call (placed : s.Placed c) (line : Text) (arguments : Arguments ι) :
    ∃ reply after, s.Calls c line arguments reply after := by
  obtain ⟨⟨m, handler⟩, found⟩ := Option.isSome_iff_exists.1 placed
  obtain ⟨member, atPlace⟩ := handler?_eq_some_iff.1 found
  cases current : m.current with
  | shared state => exact ⟨_, _, .shared member atPlace current rfl⟩
  | perCommand build => exact ⟨_, _, .perCommand member atPlace current rfl⟩

/-- What is settled about a member when it is registered. -/
def fixed (m : Member ι σ ω) : Text × List (Handler ι σ ω) := (m.name, m.handlers)

/-- The parts of a service that only its owner and its listeners can change. -/
structure Keeps (s after : Service ι σ ω) : Prop where
  members : after.members.map fixed = s.members.map fixed
  typeNames : after.typeNames = s.typeNames
  commands : after.commands = s.commands
  registry : after.registry = s.registry
  exitRequested : after.exitRequested = s.exitRequested
  listeners : after.listeners = s.listeners

theorem Keeps.rfl : Keeps s s := ⟨Eq.refl _, Eq.refl _, Eq.refl _, Eq.refl _, Eq.refl _, Eq.refl _⟩

theorem fixed_set {members : List (Member ι σ ω)} {i : Nat} {m n : Member ι σ ω}
    (member : members[i]? = some m) (same : fixed n = fixed m) :
    (members.set i n).map fixed = members.map fixed := by
  apply List.ext_getElem?
  intro j
  by_cases here : i = j
  · subst here
    have inside := (List.getElem?_eq_some_iff.1 member).1
    rw [List.getElem?_map, List.getElem?_set_self inside, List.getElem?_map, member]
    exact congrArg some same
  · rw [List.getElem?_map, List.getElem?_set_ne here, List.getElem?_map]

/-- A handler can change an instance and the world, and nothing else. -/
theorem invoke_keeps (s : Service ι σ ω) (c : Command ι) (line : Text) (arguments : Arguments ι) :
    Keeps s (s.invoke c line arguments).service := by
  cases found : s.handler? c with
  | none => simp only [invoke, found]; exact .rfl
  | some pair =>
    obtain ⟨m, handler⟩ := pair
    obtain ⟨member, _⟩ := handler?_eq_some_iff.1 found
    cases current : m.current with
    | perCommand build => simp only [invoke, found, current]; exact ⟨rfl, rfl, rfl, rfl, rfl, rfl⟩
    | shared state =>
      simp only [invoke, found, current]
      exact ⟨fixed_set member rfl, rfl, rfl, rfl, rfl, rfl⟩

theorem conclude_keeps (c : Command ι) (line : Text) (events : List Event)
    (i : Invoked ι σ ω) : Keeps i.service (conclude c line events i).service := by
  unfold conclude
  cases i.result with
  | error failure => exact .rfl
  | ok value? => exact ⟨rfl, rfl, rfl, rfl, rfl, rfl⟩

theorem Keeps.trans {s t u : Service ι σ ω} (h : Keeps s t) (k : Keeps t u) : Keeps s u :=
  ⟨k.members.trans h.members, k.typeNames.trans h.typeNames, k.commands.trans h.commands,
    k.registry.trans h.registry, k.exitRequested.trans h.exitRequested,
    k.listeners.trans h.listeners⟩

/-- A call changes at most the instances and the world. -/
theorem Calls.frame {reply : Reply σ ω (Option Json)} {after : Service ι σ ω}
    (h : s.Calls c line arguments reply after) :
    ∃ members world, after = { s with members := members, world := world } := by
  cases h with
  | shared => exact ⟨_, _, rfl⟩
  | perCommand => exact ⟨s.members, _, rfl⟩

/-- The reply is what the handler of the command answers: in the context of the dispatch, with the
arguments, and on the instance of its controller. -/
theorem Calls.reply_eq {reply : Reply σ ω (Option Json)} {after : Service ι σ ω}
    (h : s.Calls c line arguments reply after) :
    ∃ m handler, s.handler? c = some (m, handler) ∧
      reply = handler (s.context c line) arguments
        (m.current.start s.world).1 (m.current.start s.world).2 := by
  cases h with
  | shared member atPlace current called =>
    refine ⟨_, _, handler?_eq_some_iff.2 ⟨member, atPlace⟩, ?_⟩
    rw [current, ← called]
    rfl
  | perCommand member atPlace current called =>
    refine ⟨_, _, handler?_eq_some_iff.2 ⟨member, atPlace⟩, ?_⟩
    rw [current, ← called]
    rfl

variable [DecidableEq ι]

theorem dispatch_bound {i : Nat} {captures : Captures} {reply : Reply σ ω (Option Json)}
    {after : Service ι σ ω} (first : FirstAt line s.commands i c captures)
    (bound : c.bind captures s.registry = .ok arguments)
    (called : s.Calls c line arguments reply after) :
    ∃ before events, s.dispatch line =
      conclude c line before ⟨after, reply.exitRequested, reply.result, events⟩ := by
  obtain ⟨events, invoked⟩ := called.invoke_eq
  refine ⟨(tried line s.commands).map (fun c => Event.tryingRoute c.route) ++
    [.routeMatched line c.route c.controllerName], events, ?_⟩
  simp only [dispatch, firstMatch?_eq_some_iff.2 ⟨i, first⟩, bound, invoked]

theorem dispatch_keeps (s : Service ι σ ω) (line : Text) :
    Keeps s (s.dispatch line).service := by
  unfold dispatch
  cases firstMatch? line s.commands with
  | none => exact .rfl
  | some chosen =>
    obtain ⟨c, captures⟩ := chosen
    dsimp only
    cases c.bind captures s.registry with
    | error e => exact .rfl
    | ok arguments => exact (invoke_keeps s c line arguments).trans (conclude_keeps ..)

end Service
end Phrasebook
