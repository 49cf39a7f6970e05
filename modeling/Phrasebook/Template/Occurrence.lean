import Phrasebook.Text.Case

/-! The first occurrence of one text in another under a case rule. -/
namespace Phrasebook

/-- A text cut around an occurrence. -/
structure Occurrence where
  before : Text
  found : Text
  after : Text
  deriving DecidableEq, Repr

namespace Occurrence

/-- The bytes of the cut text that the occurrence takes: its start and its end. -/
def bytes (o : Occurrence) : Nat × Nat :=
  (Text.byteSize o.before, Text.byteSize o.before + Text.byteSize o.found)

/-- Splits off a run that is the same as `x`. -/
def atStart? (rule : CaseRule) : Text → Text → Option (Text × Text)
  | [], t => some ([], t)
  | _ :: _, [] => none
  | a :: x, c :: t =>
    if rule.same c a then (atStart? rule x t).map fun (found, after) => (c :: found, after)
    else none

theorem atStart?_eq_some_iff {rule : CaseRule} {x t found after : Text} :
    atStart? rule x t = some (found, after) ↔
      t = found ++ after ∧ rule.sameText found x = true := by
  induction x generalizing t found with
  | nil => cases found <;> simp [atStart?, CaseRule.sameText, eq_comm]
  | cons a x ih =>
    cases t with
    | nil => cases found <;> simp [atStart?, CaseRule.sameText]
    | cons c t =>
      cases found with
      | nil => simp [atStart?, CaseRule.sameText]
      | cons d found =>
        by_cases h : rule.same c a = true
        · simp only [atStart?, h, if_true, Option.map_eq_some_iff, Prod.mk.injEq,
            List.cons.injEq, Prod.exists, List.cons_append, CaseRule.sameText, Bool.and_eq_true]
          constructor
          · rintro ⟨f, r, start, ⟨rfl, rfl⟩, rfl⟩
            have := ih.1 start
            exact ⟨⟨rfl, this.1⟩, h, this.2⟩
          · rintro ⟨⟨rfl, rfl⟩, _, same⟩
            exact ⟨found, after, ih.2 ⟨rfl, same⟩, ⟨rfl, rfl⟩, rfl⟩
        · simp only [atStart?, h, CaseRule.sameText, Bool.and_eq_true, List.cons_append,
            List.cons.injEq]
          constructor
          · simp
          · rintro ⟨⟨rfl, _⟩, same, _⟩; exact absurd same h

def first? (rule : CaseRule) (x : Text) : Text → Option Occurrence
  | [] => none
  | c :: t =>
    match atStart? rule x (c :: t) with
    | some (found, after) => some ⟨[], found, after⟩
    | none => (first? rule x t).map fun o => { o with before := c :: o.before }

theorem first?_append {rule : CaseRule} {x t : Text} {o : Occurrence}
    (h : first? rule x t = some o) : t = o.before ++ o.found ++ o.after := by
  induction t generalizing o with
  | nil => simp [first?] at h
  | cons c t ih =>
    unfold first? at h
    split at h
    · next found after start =>
      cases h; simp [(atStart?_eq_some_iff.1 start).1]
    · obtain ⟨p, later, rfl⟩ := Option.map_eq_some_iff.1 h
      simpa using ih later

end Occurrence
end Phrasebook
