import Phrasebook.Proofs.Demo.Session

/-! What a password can change. The demo asks its script for passwords in two routes, and whatever
else it does is the same with any script. Of a password that is hidden only the length comes out. -/
namespace Phrasebook.Demo

open Service

def showRoute : Text := "read and show my password".toList

def hideRoute : Text := "read but hide my password".toList

/-- The same stage with another script. -/
def Stage.rescripted (stage : Stage) (script : List Text) : Stage :=
  { stage with secrets := .scripted script }

/-- The same demo with another script. -/
def rescripted (s : DemoService) (script : List Text) : DemoService :=
  s.inWorld (s.world.rescripted script)

theorem Stage.rescripted_self {stage : Stage} {script : List Text}
    (same : stage.secrets = .scripted script) : stage.rescripted script = stage := by
  rw [rescripted, ← same]

theorem rescripted_service (secrets others : List Text) :
    rescripted (service (.scripted secrets)) others = service (.scripted others) := by
  rw [service_eq, service_eq]
  rfl

theorem running_rescripted {s : DemoService} (running : Running s) (script : List Text) :
    Running (rescripted s script) :=
  ⟨running.members, running.commands, running.registry, running.listeners⟩

/-! A handler either knows nothing of passwords or takes one. -/

/-- The same reply with another script left. -/
def leaving (reply : Reply Presence Stage (Option Json)) (script : List Text) :
    Reply Presence Stage (Option Json) :=
  { reply with world := reply.world.rescripted script }

def deafHandlers : List DemoHandler := [showCommands, hello, bye, setAges]

section Replies

variable (context : Context) (arguments : Arguments HostType) (state : Presence) (stage : Stage)

theorem deaf_reply {handler : DemoHandler} (deaf : handler ∈ deafHandlers) (script : List Text) :
    handler context arguments state (stage.rescripted script) =
      leaving (handler context arguments state stage) script := by
  simp only [deafHandlers, List.mem_cons, List.not_mem_nil, or_false] at deaf
  rcases deaf with rfl | rfl | rfl | rfl
  · rfl
  · rw [hello_eq, hello_eq]
    cases arguments.required "name".toList textType <;> rfl
  · rw [bye_eq, bye_eq]
    cases arguments.required "name".toList textType <;> rfl
  · rfl

variable (shown : Text → String) (result : Text → Json)

theorem withSecret_taken (p : Text) (more : List Text) :
    withSecret shown result context arguments state (stage.rescripted (p :: more)) =
      ⟨state, (stage.print (shown p)).rescripted more, false, .ok (result p).nonNull?⟩ := by
  rw [withSecret_eq]
  rfl

theorem withSecret_missing :
    withSecret shown result context arguments state (stage.rescripted []) =
      ⟨state, stage.rescripted [], false, .error ⟨"no secret available", []⟩⟩ := by
  rw [withSecret_eq]
  rfl

/-- One reply to two scripts: at most the first password of each is gone, and what is left is all
that tells the replies apart. -/
def Together (reply other : Reply Presence Stage (Option Json)) (left right : List Text) : Prop :=
  ∃ taken ≤ 1, reply.world.secrets = .scripted (left.drop taken) ∧
    other = leaving reply (right.drop taken)

theorem deaf_together {handler : DemoHandler} (deaf : handler ∈ deafHandlers)
    {left right : List Text} (script : stage.secrets = .scripted left) :
    Together (handler context arguments state stage)
      (handler context arguments state (stage.rescripted right)) left right := by
  refine ⟨0, Nat.zero_le 1, ?_, deaf_reply context arguments state stage deaf right⟩
  rw [← Stage.rescripted_self script, deaf_reply context arguments state stage deaf]
  rfl

/-- Passwords that are shown alike and answered alike are not told apart. It is enough that those
are which have been taken. -/
theorem withSecret_together {left right : List Text} (script : stage.secrets = .scripted left)
    (sizes : left.length = right.length)
    (alike : ∀ p q value?, left.head? = some p → right.head? = some q →
      (withSecret shown result context arguments state stage).world.secrets =
        .scripted left.tail →
      (withSecret shown result context arguments state stage).result = .ok value? →
      shown p = shown q ∧ result p = result q) :
    Together (withSecret shown result context arguments state stage)
      (withSecret shown result context arguments state (stage.rescripted right)) left right := by
  rw [← Stage.rescripted_self script] at alike ⊢
  cases left with
  | nil =>
    obtain rfl : right = [] := List.length_eq_zero_iff.1 sizes.symm
    rw [withSecret_missing, withSecret_missing]
    exact ⟨0, Nat.zero_le 1, rfl, rfl⟩
  | cons p more =>
    obtain ⟨q, rest, rfl⟩ : ∃ q rest, right = q :: rest := by
      cases right with
      | nil => cases sizes
      | cons q rest => exact ⟨q, rest, rfl⟩
    rw [withSecret_taken] at alike
    obtain ⟨sameShown, sameResult⟩ := alike p q _ rfl rfl rfl rfl
    rw [withSecret_taken, withSecret_taken, ← sameShown, ← sameResult]
    exact ⟨1, Nat.le_refl 1, rfl, rfl⟩

end Replies

/-- The commands of the shared controllers and their places. -/
theorem shared_places : ∀ c ∈ sharedCommands,
    c.controller = 0 ∨ c.controller = 1 ∨
      c.controller = 2 ∧ (c.handler = 0 ∧ c.route = showRoute ∨
        c.handler = 1 ∧ c.route = hideRoute) := by
  decide +kernel

theorem shared_handler {c : Command HostType} {m : Member HostType Presence Stage}
    {handler : DemoHandler} (shared : c ∈ sharedCommands)
    (there : staff[c.controller]? = some m) (atPlace : m.handlers[c.handler]? = some handler) :
    handler ∈ deafHandlers ∨ (c.route = showRoute ∧ handler = showPassword) ∨
      (c.route = hideRoute ∧ handler = hidePassword) := by
  rcases shared_places c shared with place | place | ⟨place, ⟨first, route⟩ | ⟨second, route⟩⟩
  all_goals
    rw [place] at there
    cases there
  · obtain rfl := List.mem_singleton.1 (List.mem_of_getElem? atPlace)
    exact .inl (by simp [deafHandlers])
  · rcases List.mem_pair.1 (List.mem_of_getElem? atPlace) with rfl | rfl
    · exact .inl (by simp [deafHandlers])
    · exact .inl (by simp [deafHandlers])
  · rw [first] at atPlace
    exact .inr (.inl ⟨route, (Option.some.inj atPlace).symm⟩)
  · rw [second] at atPlace
    exact .inr (.inr ⟨route, (Option.some.inj atPlace).symm⟩)

section Step

variable {s : DemoService} {line? : Option Text} {k : Call HostType Presence Stage}

theorem Running.secret_cases (running : Running s) (called : s.call? line? = some k) :
    k.handler ∈ deafHandlers ∨ (k.command.route = showRoute ∧ k.handler = showPassword) ∨
      (k.command.route = hideRoute ∧ k.handler = hidePassword) := by
  rcases running.call_cases called with ⟨_, _, handler⟩ | ⟨elsewhere, _⟩
  · exact .inl (by simp [deafHandlers, handler])
  obtain ⟨_, _, ⟨i, captures, first, _⟩, found⟩ := call?_eq_some_iff.1 called
  obtain ⟨member, atPlace⟩ := handler?_eq_some_iff.1 found
  have known : k.command ∈ sharedCommands ++ [agesCommand] :=
    running.commands ▸ List.mem_of_getElem? first.here
  rcases List.mem_append.1 known with shared | ages
  · exact shared_handler shared (running.members ▸ member) atPlace
  · exact absurd (by rw [List.mem_singleton.1 ages]; rfl) elsewhere

/-- Nothing becomes of the instance that a handler works on. -/
theorem Running.invoke_eq (running : Running s) (called : s.call? line? = some k) :
    s.invoke k.command k.line k.arguments =
      ⟨s.inWorld (replied s k).world, (replied s k).exitRequested, (replied s k).result,
        match k.member.current with
        | .shared _ => []
        | .perCommand _ => [.instanceCreated k.member.name]⟩ := by
  obtain ⟨_, _, _, found⟩ := call?_eq_some_iff.1 called
  rcases running.call_cases called with ⟨_, current, _⟩ | ⟨_, current, shared⟩
  · simp only [invoke, found, current]
    rfl
  · obtain ⟨inside, here⟩ := List.getElem?_eq_some_iff.1 (call?_member called)
    have unchanged : (replied s k).state = ⟨false⟩ := (shared_reply _ _ _ _ shared).1
    have same : s.members.set k.command.controller
        { k.member with current := .shared (replied s k).state } = s.members := by
      rw [unchanged, ← current, ← here, List.set_getElem_self]
    simp only [invoke, found, current]
    exact congrArg (fun members => Invoked.mk
      { s with members := members, world := (replied s k).world } _ _ _) same

theorem Running.together (running : Running s) (called : s.call? line? = some k)
    {left right : List Text} (script : s.world.secrets = .scripted left)
    (sizes : left.length = right.length)
    (alike : ∀ p q value?, left.head? = some p → right.head? = some q →
      (replied s k).world.secrets = .scripted left.tail → (replied s k).result = .ok value? →
      (k.command.route = showRoute → p = q) ∧
        (k.command.route = hideRoute → p.length = q.length)) :
    Together (replied s k) (replied (rescripted s right) k) left right := by
  rcases running.secret_cases called with deaf | ⟨route, reads⟩ | ⟨route, reads⟩
  · exact deaf_together _ _ _ _ deaf script
  · unfold replied Call.reply at alike ⊢
    rw [reads] at alike ⊢
    refine withSecret_together _ _ _ _ _ _ script sizes fun p q value? first second after ok => ?_
    rw [(alike p q value? first second after ok).1 route]
    exact ⟨rfl, rfl⟩
  · unfold replied Call.reply at alike ⊢
    rw [reads] at alike ⊢
    refine withSecret_together _ _ _ _ _ _ script sizes fun p q value? first second after ok => ?_
    rw [(alike p q value? first second after ok).2 route]
    exact ⟨rfl, rfl⟩

/-- The same dispatch with another script left. -/
def another (d : Dispatch HostType Presence Stage) (script : List Text) :
    Dispatch HostType Presence Stage :=
  d.inWorld (d.service.world.rescripted script)

/-- One line with two scripts. The passwords that it takes have to be alike, as far as the line
shows them; then the scripts stay in step, and the line is dispatched alike. -/
theorem Running.lockstep (running : Running s) (line? : Option Text) {left right : List Text}
    (script : s.world.secrets = .scripted left) (sizes : left.length = right.length)
    (alike : ∀ p q answer, left.head? = some p → right.head? = some q →
      (s.received line?).service.world.secrets = .scripted left.tail →
      (s.received line?).outcome = .ok answer →
      (answer.route = showRoute → p = q) ∧ (answer.route = hideRoute → p.length = q.length)) :
    ∃ taken ≤ 1, (s.received line?).service.world.secrets = .scripted (left.drop taken) ∧
      (rescripted s right).received line? = another (s.received line?) (right.drop taken) := by
  cases called : s.call? line? with
  | none =>
    have same := received_of_no_call called
    refine ⟨0, Nat.zero_le 1, by rw [same]; exact script, ?_⟩
    rw [another, same]
    exact received_inWorld (fun _ => rfl) fun k some => nomatch called.symm.trans some
  | some k =>
    have service := running.received_service called
    have alikeReplies : ∀ p q value?, left.head? = some p → right.head? = some q →
        (replied s k).world.secrets = .scripted left.tail →
        (replied s k).result = .ok value? → (k.command.route = showRoute → p = q) ∧
          (k.command.route = hideRoute → p.length = q.length) := by
      intro p q value? first second after ok
      obtain ⟨_, invokes⟩ := running.invokes called
      have outcome := (invokes.of_ok ok).1
      rw [← (call?_eq_some_iff.1 called).1] at outcome
      exact alike p q _ first second (by rw [service]; exact after) outcome
    obtain ⟨taken, few, after, other⟩ := running.together called script sizes alikeReplies
    refine ⟨taken, few, by rw [service]; exact after, ?_⟩
    rw [another, service]
    refine received_inWorld (fun none => nomatch called.symm.trans none) fun k' called' => ?_
    cases called.symm.trans called'
    have there : Running (rescripted s right) := running_rescripted running right
    have again : (rescripted s right).call? line? = some k := called
    rw [running.invoke_eq called]
    refine (there.invoke_eq again).trans ?_
    rw [other]
    rfl

end Step

/-- The line succeeds by a route and takes the password at a place of the script. -/
structure Exchange.Takes (x : Exchange) (script : List Text) (place : Nat) (route : Text) :
    Prop where
  inside : place < script.length
  before : x.before.world.secrets = .scripted (script.drop place)
  after : x.executed.service.world.secrets = .scripted (script.drop (place + 1))
  succeeded : ∃ answer, x.executed.outcome = .ok answer ∧ answer.route = route

/-- Two scripts hold the same passwords where they were shown, and passwords of the same length
where they were hidden. -/
structure Agree (script other : List Text) (xs : List Exchange) : Prop where
  shown : ∀ x ∈ xs, ∀ place, x.Takes script place showRoute → script[place]? = other[place]?
  hidden : ∀ x ∈ xs, ∀ place, x.Takes script place hideRoute →
    script[place]?.map List.length = other[place]?.map List.length

/-- Nothing that can be seen of them tells two exchanges apart. -/
structure Exchange.LooksLike (x y : Exchange) : Prop where
  line : y.line? = x.line?
  output : y.executed.service.world.output = x.executed.service.world.output
  outcome : y.executed.outcome = x.executed.outcome
  lastResult : y.executed.service.lastResult? = x.executed.service.lastResult?
  exitRequested : y.executed.service.exitRequested = x.executed.service.exitRequested
  events : y.executed.events = x.executed.events

section Sessions

variable {depth : Nat} {s : DemoService} {lines : List (Option Text)} {xs : List Exchange}
  {script other : List Text} {place : Nat}

theorem Agree.of_cons {x : Exchange} (agree : Agree script other (x :: xs)) :
    Agree script other xs :=
  ⟨fun y member => agree.shown y (List.mem_cons_of_mem x member),
    fun y member => agree.hidden y (List.mem_cons_of_mem x member)⟩

/-- What the scripts must have in common at the next place, if a line takes the password there. -/
theorem Agree.heads (agree : Agree script other xs) {x : Exchange} (member : x ∈ xs)
    (before : x.before.world.secrets = .scripted (script.drop place))
    {p q : Text} {answer : Dispatched} (first : (script.drop place).head? = some p)
    (second : (other.drop place).head? = some q)
    (after : x.executed.service.world.secrets = .scripted (script.drop place).tail)
    (ok : x.executed.outcome = .ok answer) :
    (answer.route = showRoute → p = q) ∧ (answer.route = hideRoute → p.length = q.length) := by
  rw [List.head?_drop] at first second
  rw [List.tail_drop] at after
  have inside : place < script.length := (List.getElem?_eq_some_iff.1 first).1
  constructor
  · intro route
    have same := agree.shown x member place ⟨inside, before, after, answer, ok, route⟩
    rw [first, second] at same
    exact Option.some.inj same
  · intro route
    have same := agree.hidden x member place ⟨inside, before, after, answer, ok, route⟩
    rw [first, second] at same
    exact Option.some.inj same

theorem flagged_another (d : Dispatch HostType Presence Stage) (script : List Text) :
    (another d script).flagged = rescripted d.flagged script := by
  obtain ⟨up, flagged⟩ := d.flagged_frame
  rw [another, flagged_inWorld, rescripted, flagged]

/-- A session with another script goes the same way, line by line. -/
theorem Running.sessions_alike (running : Running s)
    (left : s.world.secrets = .scripted (script.drop place))
    (sizes : script.length = other.length) (exchanged : exchanges depth s lines = some xs)
    (agree : Agree script other xs) :
    ∃ ys, exchanges depth (rescripted s (other.drop place)) lines = some ys ∧
      List.Forall₂ Exchange.LooksLike xs ys := by
  induction lines generalizing s xs place with
  | nil =>
    cases exchanged
    exact ⟨[], rfl, .nil⟩
  | cons line? lines ih =>
    obtain ⟨e, more, executed, rest, rfl⟩ := exchanges_cons_iff.1 exchanged
    cases (running.executeWithin_reported depth line?).symm.trans executed
    obtain ⟨up, flagged⟩ := (s.received line?).flagged_frame
    have lengths : (script.drop place).length = (other.drop place).length := by
      rw [List.length_drop, List.length_drop, sizes]
    obtain ⟨taken, _, after, again⟩ := running.lockstep line? left lengths
      fun p q answer first second after ok =>
        agree.heads List.mem_cons_self left first second (by rw [flagged]; exact after) ok
    rw [List.drop_drop] at after again
    obtain ⟨ys, others, alike⟩ :=
      ih (running.received line?) (by rw [flagged]; exact after) rest agree.of_cons
    have there : Running (rescripted s (other.drop place)) := running_rescripted running _
    have answered := there.executeWithin_reported depth line?
    rw [again, flagged_another] at answered
    refine ⟨_, exchanges_cons_iff.2 ⟨_, ys, answered, others, rfl⟩, .cons ?_ alike⟩
    exact ⟨rfl, rfl, rfl, rfl, rfl, rfl⟩

end Sessions

/-- A hidden password stays hidden. Scripts of the same length that hold the same passwords where
they are shown and passwords of the same length where they are hidden cannot be told apart by any
lines: not by what is written, nor by answers, errors, events or last results. -/
theorem hidden_password_hidden (depth : Nat) {script other : List Text}
    (sizes : script.length = other.length) (lines : List (Option Text)) :
    ∃ xs ys, exchanges depth (service (.scripted script)) lines = some xs ∧
      exchanges depth (service (.scripted other)) lines = some ys ∧
      xs.map (·.line?) = lines ∧
      (Agree script other xs → List.Forall₂ Exchange.LooksLike xs ys) := by
  have running := running_service (.scripted script)
  obtain ⟨xs, exchanged, same⟩ := running.exists_exchanges depth lines
  obtain ⟨ys, others, _⟩ := (running_service (.scripted other)).exists_exchanges depth lines
  refine ⟨xs, ys, exchanged, others, same, fun agree => ?_⟩
  have start : (service (.scripted script)).world.secrets = .scripted (script.drop 0) := by
    rw [service_eq]
    rfl
  obtain ⟨zs, again, alike⟩ := running.sessions_alike start sizes exchanged agree
  rw [List.drop_zero, rescripted_service] at again
  cases others.symm.trans again
  exact alike

section Example

def passwords : List Text := ["swordfish".toList, "mellon".toList]

/-- The second password is shown, so it is the same. -/
def otherPasswords : List Text := ["butterfly".toList, "mellon".toList]

def readings : List (Option Text) := [some hideRoute, some showRoute, some hideRoute]

/-- The passwords of a script. -/
def Secrets.script? : Secrets → Option (List Text)
  | .scripted passwords => some passwords
  | .typed _ => none

/-- The passwords that a line finds, and the route by which it succeeds. -/
def Exchange.finding (x : Exchange) : Option (List Text) × Option Text :=
  (x.before.world.secrets.script?, x.executed.outcome.toOption.map (·.route))

theorem swordfish_hidden : passwords.length = otherPasswords.length ∧
    ∃ xs ys, exchanges 0 (service (.scripted passwords)) readings = some xs ∧
      exchanges 0 (service (.scripted otherPasswords)) readings = some ys ∧
      List.Forall₂ Exchange.LooksLike xs ys := by
  have sizes : passwords.length = otherPasswords.length := by decide
  obtain ⟨xs, ys, run, others, _, alike⟩ := hidden_password_hidden 0 sizes readings
  refine ⟨sizes, xs, ys, run, others, alike ⟨fun x member place takes => ?_, fun _ _ place _ => ?_⟩⟩
  · have found : (exchanges 0 (service (.scripted passwords)) readings).map
        (·.map Exchange.finding) = some [(some passwords, some hideRoute),
          (some passwords.tail, some showRoute), (some [], none)] := by
      decide +kernel
    rw [run] at found
    have same : xs.map Exchange.finding = _ := Option.some.inj found
    have listed : x.finding ∈ xs.map Exchange.finding := List.mem_map_of_mem member
    obtain ⟨inside, before, _, answer, ok, route⟩ := takes
    have here : x.finding = (some (passwords.drop place), some showRoute) := by
      simp [Exchange.finding, Secrets.script?, before, ok, route, Except.toOption]
    rw [same, here] at listed
    -- The password at the first place was not shown, and the one at the second is the same.
    match place, inside with
    | 0, _ => exact absurd listed (by decide +kernel)
    | 1, _ => decide +kernel
  · have lengths : passwords.map List.length = otherPasswords.map List.length := by
      decide +kernel
    simpa using congrArg (·[place]?) lengths

end Example

end Phrasebook.Demo
