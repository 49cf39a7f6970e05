import Phrasebook.Proofs.Convert.Offers
import Phrasebook.Proofs.Service.Declared
import Phrasebook.Proofs.Template.Lookup

/-! Binding. What a parameter gets depends on the text that the line has in the place of its
placeholder, and on nothing else: the text converted if there is one, else the default of its kind, if
that has one. The first parameter whose text cannot be converted ends the binding. -/
namespace Phrasebook

namespace Command

variable {ι : Type} [HostTypes ι]

/-- The line has this text in the place of the placeholder whose name is the parameter's under the
rule of the route. An empty text counts as none. -/
structure Supplies (c : Command ι) (line : Text) (q : Param ι) (raw : Text) : Prop where
  text : raw ≠ []
  placed : ∃ segments name, Template.Cut c.caseRule c.template.parts line segments ∧
    (.placeholder name, raw) ∈ c.template.parts.zip segments ∧
    c.caseRule.sameText name q.name = true

section Values

variable [DecidableEq ι] (c : Command ι) (line : Text) (registry : Registry ι)

/-- What the slot of a parameter holds. Only a parameter without a text has its default. -/
inductive Holds (q : Param ι) : Option (Value ι) → Prop
  | converted {raw : Text} {content : q.kind.type.Carrier} : c.Supplies line q raw →
      registry.convert q.kind.type q.name raw = .ok content → Holds q (some ⟨q.kind.type, content⟩)
  | standsIn {content : q.kind.type.Carrier} : (∀ raw, ¬ c.Supplies line q raw) →
      q.kind.default? = some content → Holds q (some ⟨q.kind.type, content⟩)
  | absent : (∀ raw, ¬ c.Supplies line q raw) → q.kind.default? = none → Holds q none

/-- The text that the line has for a parameter cannot be converted. -/
def Fails (q : Param ι) (e : ConvertError) : Prop :=
  ∃ raw, c.Supplies line q raw ∧ registry.convert q.kind.type q.name raw = .error e

/-- The slot has the name of the parameter as it was declared. -/
structure Fits (q : Param ι) (slot : Slot ι) : Prop where
  name : slot.name = q.name
  holds : c.Holds line registry q slot.value?

end Values

section Params

variable [DecidableEq ι] {captures : Captures} {registry : Registry ι} {params : List (Param ι)}

theorem bindParams_cons_eq_ok_iff {q : Param ι} {slots : List (Slot ι)} :
    bindParams captures registry (q :: params) = .ok slots ↔
      ∃ value? later, bindParam captures registry q = .ok value? ∧
        bindParams captures registry params = .ok later ∧ slots = ⟨q.name, value?⟩ :: later := by
  cases bound : bindParam captures registry q with
  | error e => simp [bindParams, bound]
  | ok value? =>
    cases rest : bindParams captures registry params with
    | error e => simp [bindParams, bound, rest, Except.map]
    | ok later => simp [bindParams, bound, rest, Except.map, eq_comm]

theorem bindParams_cons_eq_error_iff {q : Param ι} {e : ConvertError} :
    bindParams captures registry (q :: params) = .error e ↔
      bindParam captures registry q = .error e ∨
        (∀ e, bindParam captures registry q ≠ .error e) ∧
          bindParams captures registry params = .error e := by
  cases bound : bindParam captures registry q with
  | error e' => simp [bindParams, bound]
  | ok value? =>
    cases rest : bindParams captures registry params with
    | error e' => simp [bindParams, bound, rest, Except.map]
    | ok later => simp [bindParams, bound, rest, Except.map]

/-- There is one slot for each parameter, in their order. -/
theorem bindParams_eq_ok_iff {slots : List (Slot ι)} :
    bindParams captures registry params = .ok slots ↔
      List.Forall₂ (fun q slot => slot.name = q.name ∧
        bindParam captures registry q = .ok slot.value?) params slots := by
  induction params generalizing slots with
  | nil => simp [bindParams, eq_comm]
  | cons q params ih =>
    rw [bindParams_cons_eq_ok_iff, List.forall₂_cons_left_iff]
    constructor
    · rintro ⟨value?, later, bound, rest, rfl⟩
      exact ⟨_, later, ⟨rfl, bound⟩, ih.1 rest, rfl⟩
    · rintro ⟨⟨_, value?⟩, later, ⟨rfl, bound⟩, rest, rfl⟩
      exact ⟨value?, later, bound, ih.2 rest, rfl⟩

/-- The error is the one of the first parameter that has one. -/
theorem bindParams_eq_error_iff {e : ConvertError} :
    bindParams captures registry params = .error e ↔
      ∃ before q later, params = before ++ q :: later ∧
        (∀ p ∈ before, ∀ e, bindParam captures registry p ≠ .error e) ∧
        bindParam captures registry q = .error e := by
  induction params with
  | nil => simp [bindParams]
  | cons q params ih =>
    rw [bindParams_cons_eq_error_iff, ih]
    constructor
    · rintro (failed | ⟨bound, before, p, later, rfl, first, failed⟩)
      · exact ⟨[], q, params, rfl, by simp, failed⟩
      · exact ⟨q :: before, p, later, rfl, List.forall_mem_cons.2 ⟨bound, first⟩, failed⟩
    · rintro ⟨before, p, later, split, first, failed⟩
      cases before with
      | nil =>
        obtain ⟨rfl, _⟩ := List.cons.inj split
        exact .inl failed
      | cons p' before =>
        obtain ⟨rfl, rest⟩ := List.cons.inj split
        obtain ⟨bound, first⟩ := List.forall_mem_cons.1 first
        exact .inr ⟨bound, before, p, later, rest, first, failed⟩

end Params

section Matched

variable {c : Command ι} {line : Text} {captures : Captures} {q : Param ι}
  (regular : Part.Regular c.template.parts)
  (distinct : Template.Distinct c.caseRule c.template.names)
  (matched : c.match? line = some captures)

include regular distinct matched

/-- A look-up under the name of a parameter finds the text that the line has for it. -/
theorem get?_eq_some_iff {raw : Text} :
    captures.get? q.name = some raw ↔ c.Supplies line q raw := by
  rw [Template.get?_captured_iff regular distinct matched]
  obtain ⟨segments, cut, rfl⟩ := (Template.match?_cut regular).1 matched
  simp only [Template.mem_captured_iff]
  constructor
  · rintro ⟨name, ⟨member, text⟩, same⟩
    exact ⟨text, segments, name, cut, member, same⟩
  · rintro ⟨text, others, name, cut', member, same⟩
    cases cut.unique regular.apart cut'
    exact ⟨name, ⟨member, text⟩, same⟩

theorem get?_eq_none_iff : captures.get? q.name = none ↔ ∀ raw, ¬ c.Supplies line q raw := by
  simp only [← get?_eq_some_iff regular distinct matched, Option.eq_none_iff_forall_ne_some, ne_eq]

theorem Supplies.unique {raw raw' : Text} (h : c.Supplies line q raw)
    (h' : c.Supplies line q raw') : raw = raw' := by
  have found := (get?_eq_some_iff regular distinct matched).2 h
  have found' := (get?_eq_some_iff regular distinct matched).2 h'
  exact Option.some.inj (found.symm.trans found')

variable [DecidableEq ι] {registry : Registry ι}

theorem bindParam_supplied {raw : Text} (supplied : c.Supplies line q raw) :
    bindParam captures registry q =
      (registry.convert q.kind.type q.name raw).map fun content => some ⟨q.kind.type, content⟩ := by
  rw [bindParam, (get?_eq_some_iff regular distinct matched).2 supplied]

theorem bindParam_unsupplied (unsupplied : ∀ raw, ¬ c.Supplies line q raw) :
    bindParam captures registry q = .ok q.kind.defaultValue? := by
  rw [bindParam, (get?_eq_none_iff regular distinct matched).2 unsupplied]

theorem bindParam_eq_ok_iff {value? : Option (Value ι)} :
    bindParam captures registry q = .ok value? ↔ c.Holds line registry q value? := by
  constructor
  · intro bound
    by_cases supplied : ∃ raw, c.Supplies line q raw
    · obtain ⟨raw, supplied⟩ := supplied
      rw [bindParam_supplied regular distinct matched supplied] at bound
      cases converted : registry.convert q.kind.type q.name raw with
      | error e => rw [converted] at bound; cases bound
      | ok content =>
        rw [converted] at bound
        cases bound
        exact .converted supplied converted
    · have unsupplied := not_exists.1 supplied
      rw [bindParam_unsupplied regular distinct matched unsupplied] at bound
      cases bound
      cases default : q.kind.default? with
      | none =>
        rw [Kind.defaultValue?, default]
        exact .absent unsupplied default
      | some content =>
        rw [Kind.defaultValue?, default]
        exact .standsIn unsupplied default
  · rintro (⟨supplied, converted⟩ | ⟨unsupplied, default⟩ | ⟨unsupplied, default⟩)
    · rw [bindParam_supplied regular distinct matched supplied, converted]
      rfl
    · rw [bindParam_unsupplied regular distinct matched unsupplied, Kind.defaultValue?, default]
      rfl
    · rw [bindParam_unsupplied regular distinct matched unsupplied, Kind.defaultValue?, default]
      rfl

theorem bindParam_eq_error_iff {e : ConvertError} :
    bindParam captures registry q = .error e ↔ c.Fails line registry q e := by
  constructor
  · intro failed
    by_cases supplied : ∃ raw, c.Supplies line q raw
    · obtain ⟨raw, supplied⟩ := supplied
      rw [bindParam_supplied regular distinct matched supplied] at failed
      cases converted : registry.convert q.kind.type q.name raw with
      | ok content => rw [converted] at failed; cases failed
      | error e' =>
        rw [converted] at failed
        cases failed
        exact ⟨raw, supplied, converted⟩
    · rw [bindParam_unsupplied regular distinct matched (not_exists.1 supplied)] at failed
      cases failed
  · rintro ⟨raw, supplied, converted⟩
    rw [bindParam_supplied regular distinct matched supplied, converted]
    rfl

/-- A failing parameter holds nothing, not even its default. -/
theorem Fails.not_holds {e : ConvertError} (h : c.Fails line registry q e)
    (value? : Option (Value ι)) : ¬ c.Holds line registry q value? := by
  intro holds
  have failed := (bindParam_eq_error_iff regular distinct matched).2 h
  have bound := (bindParam_eq_ok_iff regular distinct matched).2 holds
  cases failed.symm.trans bound

theorem bind_eq_ok_iff {arguments : Arguments ι} :
    c.bind captures registry = .ok arguments ↔
      List.Forall₂ (c.Fits line registry) c.params arguments.slots := by
  have fits : c.Fits line registry = fun q slot => slot.name = q.name ∧
      bindParam captures registry q = .ok slot.value? := by
    funext q slot
    rw [bindParam_eq_ok_iff regular distinct matched]
    exact propext ⟨fun h => ⟨h.name, h.holds⟩, fun h => ⟨h.1, h.2⟩⟩
  rw [fits, ← bindParams_eq_ok_iff, bind]
  cases bindParams captures registry c.params with
  | error e => simp [Except.map]
  | ok slots => cases arguments; simp [Except.map]

theorem bind_eq_error_iff {e : ConvertError} :
    c.bind captures registry = .error e ↔
      ∃ before q later, c.params = before ++ q :: later ∧
        (∀ p ∈ before, ∀ e, ¬ c.Fails line registry p e) ∧ c.Fails line registry q e := by
  simp only [← bindParam_eq_error_iff regular distinct matched, ← ne_eq, ← bindParams_eq_error_iff]
  rw [bind]
  cases bindParams captures registry c.params <;> simp [Except.map]

/-- Binding succeeds unless some text cannot be converted. -/
theorem exists_bind_iff :
    (∃ arguments, c.bind captures registry = .ok arguments) ↔
      ∀ q ∈ c.params, ∀ raw, c.Supplies line q raw →
        ∃ content, registry.convert q.kind.type q.name raw = .ok content := by
  constructor
  · rintro ⟨arguments, bound⟩ q member raw supplied
    have fits := (bind_eq_ok_iff regular distinct matched).1 bound
    obtain ⟨slot, _, fit⟩ := exists_mem_of_forall₂ fits.flip member
    cases converted : registry.convert q.kind.type q.name raw with
    | ok content => exact ⟨content, rfl⟩
    | error e =>
      have failing : c.Fails line registry q e := ⟨raw, supplied, converted⟩
      exact absurd fit.holds (failing.not_holds regular distinct matched _)
  · intro converts
    cases bound : c.bind captures registry with
    | ok arguments => exact ⟨arguments, rfl⟩
    | error e =>
      obtain ⟨before, q, later, split, _, raw, supplied, failed⟩ :=
        (bind_eq_error_iff regular distinct matched).1 bound
      obtain ⟨content, converted⟩ := converts q (by simp [split]) raw supplied
      cases failed.symm.trans converted

end Matched

/-- The error is about the parameter and its kind. -/
theorem Fails.names [DecidableEq ι] {c : Command ι} {line : Text} {registry : Registry ι}
    {q : Param ι} {e : ConvertError} (h : c.Fails line registry q e) :
    e = .noParser q.name q.kind.name ∨ ∃ failure, e = .failed q.name q.kind.name failure := by
  obtain ⟨raw, _, failed⟩ := h
  rcases Registry.convert_error_cases failed with ⟨_, same⟩ | ⟨_, same⟩
  · exact .inl same
  · exact .inr same

end Command

namespace Service

variable {ι σ ω : Type} [HostTypes ι] [DecidableEq ι]

/-- In a service in use, a parameter belongs to at most one placeholder of its route, and a line that
matches leaves no choice about its text. Binding fills one slot for each parameter, in their order, or
ends at the first parameter whose text cannot be converted; that one has no value, not even its
default. -/
theorem binding_determined (world : ω) (acts : List (Act ι σ ω)) :
    ∀ c ∈ ((new world).after acts).commands,
      (∀ q ∈ c.params, c.template.names.countP (c.caseRule.sameText · q.name) ≤ 1) ∧
      ∀ line captures, c.match? line = some captures → ∀ registry,
        (∀ q raw raw', c.Supplies line q raw → c.Supplies line q raw' → raw = raw') ∧
        ((∃ arguments, c.bind captures registry = .ok arguments) ↔
          ∀ q ∈ c.params, ∀ raw, c.Supplies line q raw →
            ∃ content, registry.convert q.kind.type q.name raw = .ok content) ∧
        (∀ arguments, c.bind captures registry = .ok arguments ↔
          List.Forall₂ (c.Fits line registry) c.params arguments.slots) ∧
        (∀ e, c.bind captures registry = .error e ↔
          ∃ before q later, c.params = before ++ q :: later ∧
            (∀ p ∈ before, ∀ e, ¬ c.Fails line registry p e) ∧ c.Fails line registry q e) ∧
        ∀ q e, c.Fails line registry q e →
          (e = .noParser q.name q.kind.name ∨ ∃ failure, e = .failed q.name q.kind.name failure) ∧
            ∀ value?, ¬ c.Holds line registry q value? := by
  intro c member
  have composed := (new_composed world).after acts
  obtain ⟨d, _, declared⟩ := exists_mem_of_forall₂ composed.all_declared member
  have regular := Template.compile_regular declared.compiled
  have distinct := declared.names
  refine ⟨fun q _ => distinct.countP_le_one q.name, fun line captures matched registry => ?_⟩
  exact ⟨fun q raw raw' h h' => h.unique regular distinct matched h',
    Command.exists_bind_iff regular distinct matched,
    fun arguments => Command.bind_eq_ok_iff regular distinct matched,
    fun e => Command.bind_eq_error_iff regular distinct matched,
    fun q e failing => ⟨failing.names, failing.not_holds regular distinct matched⟩⟩

/-- Two parameters for one placeholder, spelled differently from it, and one for none. -/
def surveyParams : List (Param Demo.HostType) :=
  [⟨"NAME".toList, .builtin .text⟩, Demo.nameParam, ⟨"note".toList, .builtin .text⟩,
    ⟨"Age".toList, .builtin (.integer ⟨false, .bits8⟩)⟩]

def survey : Controller Demo.HostType Unit Unit :=
  (Controller.ofSource "Survey".toList (.given ())).bind
    [{ template := "set \x7bName\x7d to \x7bage\x7d".toList, params := surveyParams }]
    fun _ _ state world => ⟨state, world, false, .ok none⟩

def surveyCommand : Command Demo.HostType where
  controller := 0
  controllerName := "Survey".toList
  handler := 0
  template := ⟨"set \x7bName\x7d to \x7bage\x7d".toList, [.literal "set ".toList,
    .placeholder "Name".toList, .literal " to ".toList, .placeholder "age".toList]⟩
  caseRule := .ignoring
  description? := none
  params := surveyParams

/-- The number is out of range, so the parameter for it ends the binding, though those before it have
their values. -/
theorem large_age_ends_binding :
    surveyCommand ∈ ((new ()).after [.register survey]).commands ∧
      surveyCommand.match? "set Ada to 256".toList =
        some ⟨[("Name".toList, "Ada".toList), ("age".toList, "256".toList)], .ignoring⟩ ∧
      ∃ before q later, surveyParams = before ++ q :: later ∧
        (∀ p ∈ before, ∀ e, ¬ surveyCommand.Fails "set Ada to 256".toList Registry.empty p e) ∧
        surveyCommand.Fails "set Ada to 256".toList Registry.empty q
          (.failed "Age".toList "u8".toList ⟨"number too large to fit in target type", []⟩) := by
  have commands : ((new ()).after [.register survey]).commands = [surveyCommand] := rfl
  have member : surveyCommand ∈ ((new ()).after [.register survey]).commands := by
    rw [commands]
    exact List.mem_singleton_self _
  have matched : surveyCommand.match? "set Ada to 256".toList =
      some ⟨[("Name".toList, "Ada".toList), ("age".toList, "256".toList)], .ignoring⟩ := rfl
  obtain ⟨_, _, _, failed, _⟩ :=
    (binding_determined () _ surveyCommand member).2 _ _ matched Registry.empty
  exact ⟨member, matched, (failed _).1 rfl⟩

end Service
end Phrasebook
