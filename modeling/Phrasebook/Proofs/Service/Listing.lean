import Mathlib.Data.List.Find
import Phrasebook.Demo.Controllers
import Phrasebook.Proofs.Service.Declared
import Phrasebook.Proofs.Template.Lookup

/-! Listings beside binding. A dispatch looks parameters up under the case rule of the route, a
listing by their exact names. So a placeholder is listed with the kind of the parameter that it fills
just when both ways lead to a parameter of that kind. -/
namespace Phrasebook

/-- How a placeholder shows with a kind or without one. -/
def braced (name : Text) : Option Text → Text
  | some kind => '{' :: name ++ ':' :: kind ++ ['}']
  | none => '{' :: name ++ ['}']

theorem braced_inj {name : Text} {kind? other? : Option Text} :
    braced name kind? = braced name other? ↔ kind? = other? := by
  constructor
  · intro same
    cases kind? with
    | some kind =>
      cases other? with
      | some other => simpa [braced] using same
      | none =>
        have lengths := congrArg List.length same
        simp [braced] at lengths
    | none =>
      cases other? with
      | some other =>
        have lengths := congrArg List.length same
        simp [braced] at lengths
      | none => rfl
  · exact congrArg (braced name)

theorem shown?_placeholder (kindOf : Text → Option Text) (name : Text) :
    Part.shown? kindOf (.placeholder name) = some (braced name (kindOf name)) := by
  cases kind : kindOf name <;> simp [Part.shown?, kind, braced]

namespace Command

variable {ι : Type} [HostTypes ι]

/-- The parameter can get its argument from the placeholder: on some line, the capture that is looked
up for it is the one of the placeholder. -/
def Fills (c : Command ι) (name : Text) (q : Param ι) : Prop :=
  ∃ line captures raw, c.match? line = some captures ∧
    (captures.values.find? fun value => captures.rule.sameText value.1 q.name) = some (name, raw)

/-- The first of the parameters that get their arguments from the placeholder. -/
structure FirstFilled (c : Command ι) (name : Text) (q : Param ι) : Prop where
  filled : c.Fills name q
  first : ∃ before later, c.params = before ++ q :: later ∧ ∀ p ∈ before, ¬ c.Fills name p

/-- The listing shows the placeholder with the kind of the first parameter that it fills, and without
a kind only if it fills none. -/
structure Agrees (c : Command ι) (name : Text) : Prop where
  kind : ∀ q, c.FirstFilled name q →
    Part.shown? (kindName? c.params) (.placeholder name) = some (braced name (some q.kind.name))
  plain : Part.shown? (kindName? c.params) (.placeholder name) = some (braced name none) →
    ∀ q ∈ c.params, ¬ c.Fills name q

/-- The kind of the first parameter that has the name under the rule of the route. -/
def filledKind? (c : Command ι) (name : Text) : Option Text :=
  (c.params.find? fun q => c.caseRule.sameText name q.name).map (·.kind.name)

theorem agrees_iff_kind {c : Command ι} {name : Text} :
    c.Agrees name ↔
      (∀ q, c.FirstFilled name q → kindName? c.params name = some q.kind.name) ∧
      (kindName? c.params name = none → ∀ q ∈ c.params, ¬ c.Fills name q) := by
  have shown {kind? : Option Text} :
      Part.shown? (kindName? c.params) (.placeholder name) = some (braced name kind?) ↔
        kindName? c.params name = kind? := by
    rw [shown?_placeholder, Option.some.injEq, braced_inj]
  constructor
  · rintro ⟨kind, plain⟩
    exact ⟨fun q first => shown.1 (kind q first), fun none => plain (shown.2 none)⟩
  · rintro ⟨kind, plain⟩
    exact ⟨fun q first => shown.2 (kind q first), fun none => plain (shown.1 none)⟩

/-- A parameter of exactly the name would have it under every rule. -/
theorem kindName?_eq_none {rule : CaseRule} {params : List (Param ι)} {name : Text}
    (absent : ∀ q ∈ params, ¬ rule.sameText name q.name = true) : kindName? params name = none := by
  have none : params.find? (fun q => decide (q.name = name)) = none := by
    apply List.find?_eq_none.2
    intro q member same
    apply absent q member
    rw [of_decide_eq_true same, CaseRule.sameText_refl]
  rw [kindName?, none]
  rfl

section Lookup

variable {c : Command ι} {name : Text} (regular : Part.Regular c.template.parts)
  (distinct : Template.Distinct c.caseRule c.template.names)

include regular distinct

/-- Whatever line it is, what the placeholder captures goes to the parameters that have its name under
the rule of the route. -/
theorem bindParam_captured [DecidableEq ι] {line raw : Text} {captures : Captures}
    (matched : c.match? line = some captures) (member : (name, raw) ∈ captures.values)
    {q : Param ι} (same : c.caseRule.sameText name q.name = true) (registry : Registry ι) :
    bindParam captures registry q =
      (registry.convert q.kind.type q.name raw).map fun content => some ⟨q.kind.type, content⟩ := by
  rw [bindParam, (Template.get?_captured_iff regular distinct matched).2 ⟨name, member, same⟩]

theorem fills_iff (present : name ∈ c.template.names) (q : Param ι) :
    c.Fills name q ↔ c.caseRule.sameText name q.name = true := by
  constructor
  · rintro ⟨line, captures, raw, matched, found⟩
    have member := List.mem_of_find?_eq_some found
    exact (Template.find?_captured_iff regular distinct matched member).1 found
  · intro same
    obtain ⟨line, captures, raw, matched, member⟩ :=
      Template.exists_captured c.caseRule regular present
    exact ⟨line, captures, raw, matched,
      (Template.find?_captured_iff regular distinct matched member).2 same⟩

theorem firstFilled_iff (present : name ∈ c.template.names) (q : Param ι) :
    c.FirstFilled name q ↔
      c.params.find? (fun q => c.caseRule.sameText name q.name) = some q := by
  have fills := fills_iff regular distinct present
  rw [List.find?_eq_some_iff_append]
  constructor
  · rintro ⟨filled, before, later, split, first⟩
    refine ⟨(fills q).1 filled, before, later, split, fun p member => ?_⟩
    simpa [fills] using first p member
  · rintro ⟨same, before, later, split, first⟩
    refine ⟨(fills q).2 same, before, later, split, fun p member => ?_⟩
    simpa [fills] using first p member

theorem agrees_iff (present : name ∈ c.template.names) :
    c.Agrees name ↔ c.filledKind? name = kindName? c.params name := by
  have fills := fills_iff regular distinct present
  have firstFilled := firstFilled_iff regular distinct present
  rw [agrees_iff_kind, filledKind?]
  cases found : c.params.find? (fun q => c.caseRule.sameText name q.name) with
  | some q =>
    constructor
    · rintro ⟨kind, _⟩
      exact (kind q ((firstFilled q).2 found)).symm
    · intro same
      refine ⟨fun p first => ?_, fun plain => nomatch same.trans plain⟩
      cases found.symm.trans ((firstFilled p).1 first)
      exact same.symm
  | none =>
    have unfilled := List.find?_eq_none.1 found
    constructor
    · intro _
      exact (kindName?_eq_none unfilled).symm
    · intro _
      refine ⟨fun p first => ?_, fun _ p member => mt (fills p).1 (unfilled p member)⟩
      cases found.symm.trans ((firstFilled p).1 first)

/-- Where every parameter is spelled as its placeholder, both ways lead to the same one. -/
theorem agrees_of_spelled (present : name ∈ c.template.names)
    (spelled : ∀ q ∈ c.params, c.caseRule.sameText name q.name = true → q.name = name) :
    c.Agrees name := by
  rw [agrees_iff regular distinct present, filledKind?, kindName?]
  congr 1
  apply List.find?_congr
  intro q member
  rw [Bool.eq_iff_iff, decide_eq_true_iff]
  constructor
  · exact spelled q member
  · rintro rfl
    exact CaseRule.sameText_refl _ _

end Lookup

end Command

namespace Service

variable {ι σ ω : Type} [HostTypes ι]

/-- In a service in use, a parameter gets its argument from a placeholder exactly if it has its name
under the rule of the route. The listing agrees with that where the exact name leads to a parameter of
the same kind, so always where the route tells cases apart or the parameters are spelled as the
placeholder. -/
theorem listing_agrees_iff [DecidableEq ι] (world : ω) (acts : List (Act ι σ ω)) :
    ∀ c ∈ ((new world).after acts).commands, ∀ name ∈ c.template.names,
      c.listing.route = Text.joined [' ']
        (c.template.parts.filterMap (Part.shown? (Command.kindName? c.params))) ∧
      (∀ q, c.Fills name q ↔ c.caseRule.sameText name q.name = true) ∧
      (∀ line captures raw, c.match? line = some captures → (name, raw) ∈ captures.values →
        ∀ q : Param ι, c.caseRule.sameText name q.name = true → ∀ registry,
          Command.bindParam captures registry q =
            (registry.convert q.kind.type q.name raw).map fun content =>
              some ⟨q.kind.type, content⟩) ∧
      (c.Agrees name ↔ c.filledKind? name = Command.kindName? c.params name) ∧
      ((∀ q ∈ c.params, c.caseRule.sameText name q.name = true → q.name = name) →
        c.Agrees name) ∧
      (c.caseRule = .exact → c.Agrees name) := by
  intro c member name present
  have composed := (new_composed world).after acts
  obtain ⟨d, _, declared⟩ := exists_mem_of_forall₂ composed.all_declared member
  have regular := Template.compile_regular declared.compiled
  have spelled := Command.agrees_of_spelled regular declared.names present
  refine ⟨rfl, Command.fills_iff regular declared.names present,
    fun line captures raw matched captured q same registry =>
      Command.bindParam_captured regular declared.names matched captured same registry,
    Command.agrees_iff regular declared.names present, spelled, fun rule => ?_⟩
  apply spelled
  intro q _ same
  rw [rule] at same
  exact (CaseRule.sameText_exact_iff.1 same).symm

/-- A route whose placeholder and parameter differ in case. -/
def greeter : Controller Demo.HostType Unit Unit :=
  (Controller.ofSource "Alpha".toList (.given ())).bind
    [{ template := "greet \x7bName\x7d".toList, params := [Demo.nameParam] }]
    fun _ _ state world => ⟨state, world, false, .ok none⟩

def greetCommand : Command Demo.HostType where
  controller := 0
  controllerName := "Alpha".toList
  handler := 0
  template := ⟨"greet \x7bName\x7d".toList, [.literal "greet ".toList, .placeholder "Name".toList]⟩
  caseRule := .ignoring
  description? := none
  params := [Demo.nameParam]

/-- The parameter is filled, but the listing does not show its kind. -/
theorem greet_disagrees :
    greetCommand ∈ ((new ()).after [.register greeter]).commands ∧
      greetCommand.Fills "Name".toList Demo.nameParam ∧
      greetCommand.listing.route = "greet \x7bName\x7d".toList ∧
      ¬ greetCommand.Agrees "Name".toList := by
  have commands : ((new ()).after [.register greeter]).commands = [greetCommand] := rfl
  have filled : greetCommand.Fills "Name".toList Demo.nameParam :=
    ⟨"greet Ada".toList, ⟨[("Name".toList, "Ada".toList)], .ignoring⟩, "Ada".toList, rfl, rfl⟩
  refine ⟨by rw [commands]; exact List.mem_singleton_self _, filled, rfl, fun agrees => ?_⟩
  have shown := agrees.kind Demo.nameParam ⟨filled, [], [], rfl, by simp⟩
  revert shown
  decide

/-- Where the route tells cases apart, the same listing is right. -/
theorem exact_greet_agrees :
    let exact := { greetCommand with caseRule := .exact }
    exact ∈ ((new ()).after [.register { greeter with caseRule := .exact }]).commands ∧
      "Name".toList ∈ exact.template.names ∧ exact.Agrees "Name".toList ∧
      ¬ exact.Fills "Name".toList Demo.nameParam := by
  intro exact
  have commands : ((new ()).after [.register { greeter with caseRule := .exact }]).commands =
      [exact] := rfl
  have member : exact ∈
      ((new ()).after [.register { greeter with caseRule := .exact }]).commands := by
    rw [commands]
    exact List.mem_singleton_self _
  have present : "Name".toList ∈ exact.template.names := by decide
  obtain ⟨_, fills, _, _, _, agrees⟩ := listing_agrees_iff () _ exact member "Name".toList present
  refine ⟨member, present, agrees rfl, fun filled => ?_⟩
  have same := (fills Demo.nameParam).1 filled
  revert same
  decide

end Service
end Phrasebook
