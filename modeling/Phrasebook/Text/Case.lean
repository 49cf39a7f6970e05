import Phrasebook.Text.Lowercase

/-! The two rules by which texts are compared: character by character, or by the lower case
of each character. A letter and its other case may differ in bytes, never in count. -/
namespace Phrasebook

inductive CaseRule where
  | exact
  | ignoring
  deriving DecidableEq, Repr

namespace CaseRule

def same : CaseRule → Char → Char → Bool
  | exact, a, b => a == b
  | ignoring, a, b => a == b || Text.lowercase a == Text.lowercase b

@[simp] theorem same_refl (rule : CaseRule) (a : Char) : rule.same a a = true := by
  cases rule <;> simp [same]

theorem same_symm (rule : CaseRule) (a b : Char) : rule.same a b = rule.same b a := by
  cases rule <;> simp [same, Bool.beq_comm (a := a), Bool.beq_comm (a := Text.lowercase a)]

theorem same_trans {rule : CaseRule} {a b c : Char} (ab : rule.same a b = true)
    (bc : rule.same b c = true) : rule.same a c = true := by
  cases rule with
  | exact => simp_all [same]
  | ignoring =>
    simp only [same, Bool.or_eq_true, beq_iff_eq] at *
    rcases ab with rfl | ab
    · exact bc
    · rcases bc with rfl | bc
      · exact .inr ab
      · exact .inr (ab.trans bc)

/-- Equal in length and the same at every place. -/
def sameText (rule : CaseRule) : Text → Text → Bool
  | [], [] => true
  | a :: as, b :: bs => rule.same a b && sameText rule as bs
  | _, _ => false

theorem sameText_length {rule : CaseRule} {t u : Text} (h : rule.sameText t u = true) :
    t.length = u.length := by
  induction t generalizing u with
  | nil => cases u <;> simp_all [sameText]
  | cons a t ih => cases u with
    | nil => simp [sameText] at h
    | cons b u => simp [sameText] at h; simp [ih h.2]

@[simp] theorem sameText_refl (rule : CaseRule) (t : Text) : rule.sameText t t = true := by
  induction t with
  | nil => rfl
  | cons a t ih => simp [sameText, ih]

theorem sameText_symm (rule : CaseRule) (t u : Text) : rule.sameText t u = rule.sameText u t := by
  induction t generalizing u with
  | nil => cases u <;> rfl
  | cons a t ih =>
    cases u with
    | nil => rfl
    | cons b u => rw [sameText, sameText, same_symm, ih]

theorem sameText_trans {rule : CaseRule} {t u v : Text} (tu : rule.sameText t u = true)
    (uv : rule.sameText u v = true) : rule.sameText t v = true := by
  induction t generalizing u v with
  | nil =>
    cases List.eq_nil_of_length_eq_zero (sameText_length tu).symm
    exact uv
  | cons a t ih =>
    cases u with
    | nil => exact nomatch tu
    | cons b u =>
      cases v with
      | nil => exact nomatch uv
      | cons c v =>
        simp only [sameText, Bool.and_eq_true] at tu uv ⊢
        exact ⟨same_trans tu.1 uv.1, ih tu.2 uv.2⟩

theorem sameText_exact_iff {t u : Text} : exact.sameText t u = true ↔ t = u := by
  induction t generalizing u with
  | nil => cases u <;> simp [sameText]
  | cons a t ih => cases u <;> simp [sameText, same, ih]

theorem sameText_append_iff {rule : CaseRule} {w t u : Text} :
    rule.sameText w (t ++ u) = true ↔
      ∃ v x, w = v ++ x ∧ rule.sameText v t = true ∧ rule.sameText x u = true := by
  induction t generalizing w with
  | nil =>
    constructor
    · intro same
      exact ⟨[], w, rfl, rfl, same⟩
    · rintro ⟨v, x, rfl, empty, same⟩
      cases List.eq_nil_of_length_eq_zero (sameText_length empty)
      exact same
  | cons b t ih =>
    cases w with
    | nil =>
      refine ⟨nofun, ?_⟩
      rintro ⟨v, x, whole, same, _⟩
      cases (List.append_eq_nil_iff.1 whole.symm).1
      exact nomatch same
    | cons a w =>
      simp only [List.cons_append, sameText, Bool.and_eq_true]
      constructor
      · rintro ⟨first, same⟩
        obtain ⟨v, x, rfl, front, back⟩ := ih.1 same
        exact ⟨a :: v, x, rfl, by simp [sameText, first, front], back⟩
      · rintro ⟨v, x, whole, front, back⟩
        cases v with
        | nil => exact nomatch front
        | cons c v =>
          obtain ⟨rfl, rfl⟩ := List.cons.inj whole
          simp only [sameText, Bool.and_eq_true] at front
          exact ⟨front.1, ih.2 ⟨v, x, rfl, front.2, back⟩⟩

end CaseRule
end Phrasebook
