import Phrasebook.Proofs.Service.History

/-! The instances of controllers. A shared instance is what the handlers called on it have made of
the first one, one after the other; what is built for a single command is gone with it. A factory is
called when a shared instance is due at registration, and for every call on a controller that has an
instance per command. -/
namespace Phrasebook

/-- The first instance of a controller that is registered, and the world after that. An instance per
command is not built yet. -/
inductive Controller.Starts {ι σ ω : Type} [HostTypes ι] (c : Controller ι σ ω) (world : ω) :
    Instance σ ω → ω → Prop
  | given {state : σ} :
      c.source = .given state → c.perCommand = false → Starts c world (.shared state) world
  | built {build : ω → σ × ω} :
      c.source = .factory build → c.perCommand = false →
      Starts c world (.shared (build world).1) (build world).2
  | perCommand {build : ω → σ × ω} :
      c.source = .factory build → c.perCommand = true → Starts c world (.perCommand build) world

/-- The instance after some changes to it. An instance per command cannot be changed. -/
def Instance.worked {σ ω : Type} : Instance σ ω → List (σ → σ) → Instance σ ω
  | .shared state, changes => .shared (changes.foldl (fun state change => change state) state)
  | .perCommand build, _ => .perCommand build

@[simp] theorem Instance.worked_nil {σ ω : Type} (i : Instance σ ω) : i.worked [] = i := by
  cases i <;> rfl

theorem Instance.worked_append {σ ω : Type} (i : Instance σ ω) (changes more : List (σ → σ)) :
    i.worked (changes ++ more) = (i.worked changes).worked more := by
  cases i with
  | shared state => simp [worked]
  | perCommand build => rfl

theorem Instance.worked_eq_perCommand_iff {σ ω : Type} {i : Instance σ ω} {changes : List (σ → σ)}
    {build : ω → σ × ω} : i.worked changes = .perCommand build ↔ i = .perCommand build := by
  cases i <;> simp [worked]

namespace Service

variable {ι σ ω : Type} [HostTypes ι]

theorem instantiate_starts {c : Controller ι σ ω} {world after : ω} {current : Instance σ ω}
    (made : c.instantiate world = .ok (current, after)) : c.Starts world current after := by
  unfold Controller.instantiate at made
  cases source : c.source with
  | given state =>
    cases policy : c.perCommand with
    | true => simp [source, policy] at made
    | false =>
      simp only [source, policy] at made
      cases made
      exact .given source policy
  | factory build =>
    cases policy : c.perCommand with
    | true =>
      simp only [source, policy] at made
      cases made
      exact .perCommand source policy
    | false =>
      simp only [source, policy] at made
      cases made
      exact .built source policy

/-- A handler that is called, the command that leads to it, and the arguments. -/
structure Call (ι σ ω : Type) [HostTypes ι] where
  command : Command ι
  line : Text
  arguments : Arguments ι
  member : Member ι σ ω
  handler : Handler ι σ ω

def Call.reply (k : Call ι σ ω) (s : Service ι σ ω) (state : σ) (world : ω) :
    Reply σ ω (Option Json) :=
  k.handler (s.context k.command k.line) k.arguments state world

/-- What the call makes of an instance. -/
def Call.works (k : Call ι σ ω) (s : Service ι σ ω) (state : σ) : σ :=
  (k.reply s state s.world).state

/-- The same service in another world. -/
def inWorld (s : Service ι σ ω) (world : ω) : Service ι σ ω := { s with world := world }

def Invoked.inWorld (i : Invoked ι σ ω) (world : ω) : Invoked ι σ ω :=
  { i with service := i.service.inWorld world }

def Dispatch.inWorld (d : Dispatch ι σ ω) (world : ω) : Dispatch ι σ ω :=
  { d with service := d.service.inWorld world }

theorem conclude_inWorld (c : Command ι) (line : Text) (events : List Event)
    (i : Invoked ι σ ω) (world : ω) :
    conclude c line events (i.inWorld world) = (conclude c line events i).inWorld world := by
  obtain ⟨after, asked, result, reported⟩ := i
  cases result <;> rfl

theorem flagged_inWorld (d : Dispatch ι σ ω) (world : ω) :
    (d.inWorld world).flagged = d.flagged.inWorld world := by
  obtain ⟨after, outcome, request?, events⟩ := d
  cases request? <;> rfl

variable [DecidableEq ι]

/-- The last result when a handler has replied. -/
def resultAfter (s : Service ι σ ω) (reply : Reply σ ω (Option Json)) : Option Json :=
  match reply.result with
  | .ok value? => value?
  | .error _ => s.lastResult?

/-- The call that a line leads to. A line that is refused leads to none. -/
def call? (s : Service ι σ ω) : Option Text → Option (Call ι σ ω)
  | none => none
  | some [] => none
  | some line =>
    match firstMatch? line s.commands with
    | none => none
    | some (c, captures) =>
      match c.bind captures s.registry, s.handler? c with
      | .ok arguments, some (m, handler) => some ⟨c, line, arguments, m, handler⟩
      | _, _ => none

section Call

variable {s after : Service ι σ ω} {line : Text} {line? : Option Text} {c : Command ι}
  {reply : Reply σ ω (Option Json)} {k : Call ι σ ω}

theorem call?_eq_some_iff :
    s.call? line? = some k ↔ line? = some k.line ∧ k.line ≠ [] ∧
      (∃ i captures, FirstAt k.line s.commands i k.command captures ∧
        k.command.bind captures s.registry = .ok k.arguments) ∧
      s.handler? k.command = some (k.member, k.handler) := by
  constructor
  · intro h
    match line?, h with
    | some (first :: more), h =>
      rw [call?.eq_def] at h
      dsimp only at h
      cases chosen : firstMatch? (first :: more) s.commands with
      | none => simp [chosen] at h
      | some pair =>
        obtain ⟨c, captures⟩ := pair
        obtain ⟨i, firstAt⟩ := firstMatch?_eq_some_iff.1 chosen
        cases bound : c.bind captures s.registry with
        | error e => simp [chosen, bound] at h
        | ok arguments =>
          cases found : s.handler? c with
          | none => simp [chosen, bound, found] at h
          | some owner =>
            simp only [chosen, bound, found, Option.some.injEq] at h
            subst h
            exact ⟨rfl, List.cons_ne_nil first more, ⟨i, captures, firstAt, bound⟩, found⟩
  · obtain ⟨c, line, arguments, m, handler⟩ := k
    rintro ⟨rfl, nonempty, ⟨i, captures, firstAt, bound⟩, found⟩
    obtain ⟨first, more, rfl⟩ := List.exists_cons_of_ne_nil nonempty
    rw [call?.eq_def]
    simp only [firstMatch?_eq_some_iff.2 ⟨i, firstAt⟩, bound, found]

/-- The call that is made is the one that the line leads to. -/
theorem invokes_iff_call :
    s.Invokes line c reply after ↔ ∃ k : Call ι σ ω, s.call? (some line) = some k ∧
      k.command = c ∧ s.Calls c line k.arguments reply after := by
  constructor
  · rintro ⟨nonempty, first, bound, called⟩
    obtain ⟨m, handler, found, _⟩ := called.reply_eq
    exact ⟨⟨c, line, _, m, handler⟩,
      call?_eq_some_iff.2 ⟨rfl, nonempty, ⟨_, _, first, bound⟩, found⟩, rfl, called⟩
  · rintro ⟨k, leads, rfl, called⟩
    obtain ⟨same, nonempty, ⟨i, captures, first, bound⟩, _⟩ := call?_eq_some_iff.1 leads
    cases same
    exact .intro nonempty first bound called

theorem received_of_no_call (none : s.call? line? = none) : (s.received line?).service = s := by
  rcases s.refused_or_invokes line? with refused | ⟨line, c, reply, after, rfl, invokes⟩
  · exact refused.service
  · obtain ⟨k, called, _⟩ := invokes_iff_call.1 invokes
    cases none.symm.trans called

/-- Once the handler has replied, nothing is done but that a success stores its value. -/
theorem Invokes.received_service (h : s.Invokes line c reply after) :
    (s.received (some line)).service = { after with lastResult? := s.resultAfter reply } := by
  unfold resultAfter
  cases result : reply.result with
  | ok value? => exact (h.of_ok result).2
  | error failure =>
    obtain ⟨_, _, _, called⟩ := id h
    obtain ⟨members, world, rfl⟩ := called.frame
    exact (h.of_error result).2

theorem call?_member (called : s.call? line? = some k) :
    s.members[k.command.controller]? = some k.member :=
  (handler?_eq_some_iff.1 (call?_eq_some_iff.1 called).2.2.2).1

/-- The handler works on the shared instance, which is kept whether it fails or not. -/
theorem received_shared {state : σ} (called : s.call? line? = some k)
    (current : k.member.current = .shared state) :
    (s.received line?).service = { s with
      members := s.members.set k.command.controller
        { k.member with current := .shared (k.works s state) }
      world := (k.reply s state s.world).world
      lastResult? := s.resultAfter (k.reply s state s.world) } := by
  obtain ⟨rfl, nonempty, ⟨i, captures, first, bound⟩, found⟩ := call?_eq_some_iff.1 called
  obtain ⟨member, atPlace⟩ := handler?_eq_some_iff.1 found
  have invokes := Invokes.intro nonempty first bound (.shared member atPlace current rfl)
  exact invokes.received_service

/-- The handler works on what the factory builds for it, of which nothing is kept. -/
theorem received_perCommand {build : ω → σ × ω} (called : s.call? line? = some k)
    (current : k.member.current = .perCommand build) :
    (s.received line?).service = { s with
      world := (k.reply s (build s.world).1 (build s.world).2).world
      lastResult? := s.resultAfter (k.reply s (build s.world).1 (build s.world).2) } := by
  obtain ⟨rfl, nonempty, ⟨i, captures, first, bound⟩, found⟩ := call?_eq_some_iff.1 called
  obtain ⟨member, atPlace⟩ := handler?_eq_some_iff.1 found
  have invokes := Invokes.intro nonempty first bound (.perCommand member atPlace current rfl)
  exact invokes.received_service

/-- Only the place of the controller that is called can change. -/
theorem received_elsewhere {place : Nat}
    (elsewhere : ∀ k, s.call? line? = some k → k.command.controller ≠ place) :
    (s.received line?).service.members[place]? = s.members[place]? := by
  cases called : s.call? line? with
  | none => rw [received_of_no_call called]
  | some k =>
    cases current : k.member.current with
    | shared state =>
      rw [received_shared called current]
      exact List.getElem?_set_ne (elsewhere k called)
    | perCommand build => rw [received_perCommand called current]

/-- A line depends on the world only through the handler that it has called. -/
theorem received_inWorld {world final : ω} (quiet : s.call? line? = none → final = world)
    (called : ∀ k, s.call? line? = some k →
      (s.inWorld world).invoke k.command k.line k.arguments =
        (s.invoke k.command k.line k.arguments).inWorld final) :
    (s.inWorld world).received line? = (s.received line?).inWorld final := by
  match line? with
  | none =>
    cases quiet rfl
    rfl
  | some [] =>
    cases quiet rfl
    rfl
  | some (first :: more) =>
    have nonempty : first :: more ≠ [] := List.cons_ne_nil first more
    rw [received_line nonempty, received_line nonempty, dispatch, dispatch, inWorld]
    rw [call?.eq_def] at quiet called
    dsimp only at quiet called ⊢
    cases chosen : firstMatch? (first :: more) s.commands with
    | none =>
      cases quiet (by simp only [chosen])
      rfl
    | some pair =>
      obtain ⟨c, captures⟩ := pair
      dsimp only
      cases bound : c.bind captures s.registry with
      | error e =>
        cases quiet (by simp only [chosen, bound])
        rfl
      | ok arguments =>
        dsimp only
        rw [← conclude_inWorld]
        cases found : s.handler? c with
        | none =>
          cases quiet (by simp only [chosen, bound, found])
          have missing : (s.inWorld world).handler? c = none := found
          simp only [inWorld] at missing
          simp only [invoke, found, missing]
          rfl
        | some owner =>
          rw [← called ⟨c, _, arguments, owner.1, owner.2⟩ (by simp only [chosen, bound, found])]
          rfl

end Call

/-- What is made of the instance at a place, if a handler is called on it. -/
def Moment.change? (place : Nat) (m : Moment ι σ ω) : Option (σ → σ) :=
  match m.act with
  | .execute line? => (m.before.call? line?).bind fun k =>
      if k.command.controller = place then some (k.works m.before) else none
  | _ => none

/-- What some acts make of the instance at a place, call by call. -/
def changes (s : Service ι σ ω) (place : Nat) (acts : List (Act ι σ ω)) : List (σ → σ) :=
  (s.moments acts).filterMap (Moment.change? place)

theorem changes_cons (s : Service ι σ ω) (place : Nat) (act : Act ι σ ω)
    (acts : List (Act ι σ ω)) :
    s.changes place (act :: acts) =
      (Moment.change? place ⟨s, act⟩).toList ++ (s.done act).changes place acts := by
  rw [changes, moments, List.filterMap_cons]
  cases Moment.change? place ⟨s, act⟩ <;> rfl

section Members

variable {s : Service ι σ ω} {place : Nat} {m : Member ι σ ω}

/-- An accepted controller starts with its first instance, in the last place. -/
theorem register_starts {c : Controller ι σ ω} (accepted : (s.register c).result = .ok ()) :
    ∃ current world, c.Starts s.world current world ∧ (s.register c).service.world = world ∧
      (s.register c).service.members = s.members ++ [⟨c.name, current, c.handlers⟩] := by
  obtain ⟨new, sound, has⟩ := register_ok_iff.1 accepted
  obtain ⟨_, current, world, _, made, registered⟩ := register_complete new sound has
  exact ⟨current, world, instantiate_starts made, by rw [registered], by rw [registered]⟩

theorem received_member (there : s.members[place]? = some m) (line? : Option Text) :
    (s.received line?).service.members[place]? =
      some { m with
        current := m.current.worked (Moment.change? place ⟨s, .execute line?⟩).toList } := by
  by_cases here : ∃ k, s.call? line? = some k ∧ k.command.controller = place
  · obtain ⟨k, called, rfl⟩ := here
    have member := call?_member called
    cases there.symm.trans member
    have change : Moment.change? k.command.controller ⟨s, .execute line?⟩ = some (k.works s) := by
      simp [Moment.change?, called]
    rw [change]
    cases current : k.member.current with
    | shared state =>
      have inside := (List.getElem?_eq_some_iff.1 member).1
      rw [received_shared called current]
      exact List.getElem?_set_self inside
    | perCommand build =>
      rw [received_perCommand called current]
      simp [member, Instance.worked, ← current]
  · have elsewhere : ∀ k, s.call? line? = some k → k.command.controller ≠ place := by
      simpa using here
    have change : Moment.change? place ⟨s, .execute line?⟩ = none := by
      simpa [Moment.change?] using elsewhere
    rw [received_elsewhere elsewhere, there, change]
    simp

theorem done_member (there : s.members[place]? = some m) (act : Act ι σ ω) :
    (s.done act).members[place]? =
      some { m with current := m.current.worked (Moment.change? place ⟨s, act⟩).toList } := by
  have quiet : some m =
      some { m with current := m.current.worked (none : Option (σ → σ)).toList } := by simp
  cases act with
  | register c =>
    obtain ⟨_, _, _, _, registered⟩ := register_frame s c
    have inside := (List.getElem?_eq_some_iff.1 there).1
    rw [done, registered, List.getElem?_append_left inside]
    exact there.trans quiet
  | addParser p =>
    obtain ⟨registry, added⟩ := addParser_frame s p
    rw [done, added]
    exact there.trans quiet
  | listen listener => exact there.trans quiet
  | clearExit => exact there.trans quiet
  | update change => exact there.trans quiet
  | execute line? =>
    obtain ⟨up, flagged⟩ := (s.received line?).flagged_frame
    rw [done, flagged]
    exact received_member there line?

theorem after_member (there : s.members[place]? = some m) (acts : List (Act ι σ ω)) :
    (s.after acts).members[place]? =
      some { m with current := m.current.worked (s.changes place acts) } := by
  induction acts generalizing s m with
  | nil => simpa [after, changes, moments] using there
  | cons act acts ih =>
    rw [after, changes_cons, Instance.worked_append]
    exact ih (done_member there act)

end Members

/-- What a service does to the instances of its controllers. -/
structure Isolated (s : Service ι σ ω) : Prop where
  accepted : ∀ c, (s.register c).result = .ok () → ∃ current world,
    c.Starts s.world current world ∧ (s.register c).service.world = world ∧
    (s.register c).service.members = s.members ++ [⟨c.name, current, c.handlers⟩]
  refused : ∀ c e, (s.register c).result = .error e → (s.register c).service = s
  called : ∀ line c reply after, s.Invokes line c reply after ↔ ∃ k : Call ι σ ω,
    s.call? (some line) = some k ∧ k.command = c ∧ s.Calls c line k.arguments reply after
  uncalled : ∀ line?, s.call? line? = none → (s.received line?).service = s
  member : ∀ line? k, s.call? line? = some k →
    s.members[k.command.controller]? = some k.member
  elsewhere : ∀ line? place, (∀ k, s.call? line? = some k → k.command.controller ≠ place) →
    (s.received line?).service.members[place]? = s.members[place]?
  shared : ∀ line? k state, s.call? line? = some k → k.member.current = .shared state →
    (s.received line?).service = { s with
      members := s.members.set k.command.controller
        { k.member with current := .shared (k.works s state) }
      world := (k.reply s state s.world).world
      lastResult? := s.resultAfter (k.reply s state s.world) }
  perCommand : ∀ line? k build, s.call? line? = some k → k.member.current = .perCommand build →
    (s.received line?).service = { s with
      world := (k.reply s (build s.world).1 (build s.world).2).world
      lastResult? := s.resultAfter (k.reply s (build s.world).1 (build s.world).2) }

theorem isolated (s : Service ι σ ω) : Isolated s where
  accepted _ := register_starts
  refused c e failed := by rw [register_refused failed]
  called _ _ _ _ := invokes_iff_call
  uncalled _ := received_of_no_call
  member _ _ := call?_member
  elsewhere _ _ := received_elsewhere
  shared _ _ _ := received_shared
  perCommand _ _ _ := received_perCommand

end Service
end Phrasebook
