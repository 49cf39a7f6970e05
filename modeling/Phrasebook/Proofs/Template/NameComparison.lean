import Mathlib.Data.List.Forall2
import Phrasebook.Proofs.Input.Encoding
import Phrasebook.Proofs.Template.Names

/-! How names are compared. Ignoring case there is a short cut: the bytes may differ in the case of
ASCII letters. What it accepts, the comparison by characters accepts, so it never changes the
answer, and to be the same is an equivalence. The check of the names of a route is therefore right
whichever of two names comes first, and names that pass it ignoring case also pass it exactly. -/
namespace Phrasebook

/-- An ASCII capital becomes its small letter, every other byte stays. -/
def lowerByte (b : UInt8) : UInt8 := if 0x41 ≤ b ∧ b ≤ 0x5A then b + 0x20 else b

/-- As many on both sides, and each the same as its counterpart. -/
def agree {α : Type} (same : α → α → Bool) (as bs : List α) : Bool :=
  as.length == bs.length && (as.zip bs).all fun (a, b) => same a b

theorem agree_iff_forall₂ {α : Type} {same : α → α → Bool} {as bs : List α} :
    agree same as bs = true ↔ List.Forall₂ (fun a b => same a b = true) as bs := by
  simp [agree, List.forall₂_iff_zip]

/-- To agree in what a function makes of each is to agree in what it makes of all. -/
theorem agree_iff_map_eq {α β : Type} [DecidableEq β] {f : α → β} {as bs : List α} :
    agree (fun a b => f a == f b) as bs = true ↔ as.map f = bs.map f := by
  rw [agree_iff_forall₂]
  simp [← List.forall₂_eq_eq_eq, List.forall₂_map_left_iff, List.forall₂_map_right_iff]

section Ascii

variable {c d : Char}

theorem toNat_toLower (c : Char) :
    c.toLower.toNat = if 65 ≤ c.toNat ∧ c.toNat ≤ 90 then c.toNat + 32 else c.toNat := by
  have capital : (c.val ≥ 'A'.val ∧ c.val ≤ 'Z'.val) ↔ 65 ≤ c.toNat ∧ c.toNat ≤ 90 := by
    simp [UInt32.le_iff_toNat_le]
  unfold Char.toLower
  split
  · next upper =>
    have range := capital.1 upper
    have code : c.val.toNat ≤ 90 := range.2
    rw [if_pos range]
    show (c.val + 32).toNat = c.val.toNat + 32
    rw [UInt32.toNat_add]
    show (c.val.toNat + 32) % 2 ^ 32 = c.val.toNat + 32
    omega
  · next other => rw [if_neg (mt capital.2 other)]

theorem toLower_small_iff : c.toLower.toNat < 128 ↔ c.toNat < 128 := by
  rw [toNat_toLower]
  split <;> omega

theorem toLower_of_large (large : 128 ≤ c.toNat) : c.toLower = c := by
  apply Char.toNat_inj.1
  rw [toNat_toLower, if_neg (by omega)]

theorem lowerByte_ofNat {n : Nat} (byte : n < 256) :
    lowerByte (UInt8.ofNat n) = UInt8.ofNat (if 65 ≤ n ∧ n ≤ 90 then n + 32 else n) := by
  have capital : 0x41 ≤ UInt8.ofNat n ∧ UInt8.ofNat n ≤ 0x5A ↔ 65 ≤ n ∧ n ≤ 90 := by
    simp [UInt8.le_iff_toNat_le, Nat.mod_eq_of_lt byte]
  unfold lowerByte
  by_cases upper : 65 ≤ n ∧ n ≤ 90
  · rw [if_pos upper, if_pos (capital.2 upper), UInt8.ofNat_add]
    rfl
  · rw [if_neg upper, if_neg (mt capital.1 upper)]

theorem lowerByte_of_high {b : UInt8} (high : 128 ≤ b.toNat) : lowerByte b = b := by
  have byte := b.toNat_lt
  rw [← UInt8.ofNat_toNat (x := b), lowerByte_ofNat byte, if_neg (by omega)]

/-- Only a character of one byte has another case in ASCII. -/
theorem map_lowerByte_utf8EncodeChar (c : Char) :
    (String.utf8EncodeChar c).map lowerByte = String.utf8EncodeChar c.toLower := by
  by_cases small : c.toNat < 128
  · have small' := toLower_small_iff.2 small
    rw [Input.utf8EncodeChar_of_small small, Input.utf8EncodeChar_of_small small', toNat_toLower]
    rw [List.map_singleton, lowerByte_ofNat (by omega)]
  · have large : 128 ≤ c.toNat := Nat.le_of_not_lt small
    rw [toLower_of_large large]
    have kept : ∀ b ∈ String.utf8EncodeChar c, lowerByte b = id b := fun b member =>
      lowerByte_of_high (Input.high_of_mem_utf8EncodeChar large member)
    rw [List.map_congr_left kept, List.map_id]

theorem map_lowerByte_encode (text : Text) :
    (Input.encode text).map lowerByte = Input.encode (text.map Char.toLower) := by
  induction text with
  | nil => rfl
  | cons c text ih =>
    rw [Input.encode_cons, List.map_append, map_lowerByte_utf8EncodeChar, ih]
    rfl

/-- Characters that ASCII gives one lower case are the same: to a character of ASCII it gives its
lower case, and any other it leaves as it is. -/
theorem same_of_toLower_eq (lower : c.toLower = d.toLower) :
    CaseRule.ignoring.same c d = true := by
  have together : c.toNat < 128 ↔ d.toNat < 128 := by
    rw [← toLower_small_iff, lower, toLower_small_iff]
  by_cases small : c.toNat < 128
  · have small' : d.toNat < 128 := together.1 small
    simp [CaseRule.same, Text.lowercase, small, small', lower]
  · have large : 128 ≤ d.toNat := Nat.le_of_not_lt (mt together.2 small)
    rw [toLower_of_large (Nat.le_of_not_lt small), toLower_of_large large] at lower
    rw [lower, CaseRule.same_refl]

end Ascii

namespace CaseRule

variable {rule : CaseRule} {a b : Text}

/-- The bytes differ at most in the case of ASCII letters. -/
def sameBytes (a b : Text) : Bool :=
  agree (fun x y => lowerByte x == lowerByte y) (Input.encode a) (Input.encode b)

/-- Names are compared character by character, ignoring case by their bytes first. -/
def sameName : CaseRule → Text → Text → Bool
  | exact, a, b => a == b
  | ignoring, a, b => sameBytes a b || agree ignoring.same a b

theorem sameBytes_iff : sameBytes a b = true ↔ a.map Char.toLower = b.map Char.toLower := by
  rw [sameBytes, agree_iff_map_eq, map_lowerByte_encode, map_lowerByte_encode, Input.encode_inj]

theorem sameText_eq_agree (rule : CaseRule) (a b : Text) :
    rule.sameText a b = agree rule.same a b := by
  induction a generalizing b with
  | nil => cases b <;> rfl
  | cons c a ih =>
    cases b with
    | nil => rfl
    | cons d b =>
      rw [sameText, ih]
      simp [agree, Bool.and_left_comm]

/-- The short cut accepts nothing that the comparison by characters would not. -/
theorem agree_of_sameBytes (same : sameBytes a b = true) : agree ignoring.same a b = true := by
  have lower := agree_iff_map_eq.2 (sameBytes_iff.1 same)
  rw [agree_iff_forall₂] at lower ⊢
  apply lower.imp
  intro c d equal
  exact same_of_toLower_eq (beq_iff_eq.1 equal)

theorem sameName_eq (rule : CaseRule) : rule.sameName = rule.sameText := by
  funext a b
  cases rule with
  | exact =>
    rw [Bool.eq_iff_iff, sameText_exact_iff]
    exact beq_iff_eq
  | ignoring =>
    rw [sameText_eq_agree, sameName]
    cases short : sameBytes a b with
    | false => rfl
    | true => exact (agree_of_sameBytes short).symm

theorem sameText_equivalence (rule : CaseRule) :
    Equivalence fun a b => rule.sameText a b = true where
  refl := sameText_refl rule
  symm := fun {a b} same => (sameText_symm rule b a).trans same
  trans := sameText_trans

end CaseRule

namespace Template

/-- Names that are the same exactly are the same under every rule. -/
theorem Distinct.exact {rule : CaseRule} {names : List Text} (distinct : Distinct rule names) :
    Distinct .exact names := by
  apply distinct.imp
  intro a b apart
  rw [← Bool.not_eq_true, CaseRule.sameText_exact_iff]
  rintro rfl
  cases (CaseRule.sameText_refl rule a).symm.trans apart

/-- The comparison of names is an equivalence under both rules, its short cut changes nothing, and
it is the comparison that texts are matched by. The check passes exactly where no two names are the
same. Otherwise it reports the first name that is the same as an earlier one. What passes ignoring
case passes exactly. -/
theorem names_compared :
    (∀ rule : CaseRule, Equivalence fun a b => rule.sameName a b = true) ∧
    (∀ a b, CaseRule.sameBytes a b = true → agree CaseRule.ignoring.same a b = true) ∧
    (∀ a b, CaseRule.ignoring.sameName a b = agree CaseRule.ignoring.same a b) ∧
    (∀ rule : CaseRule, rule.sameName = rule.sameText) ∧
    (∀ (rule : CaseRule) (t : Template),
      (t.checkNames rule = .ok () ↔ t.names.Pairwise fun a b => rule.sameName a b = false) ∧
      ∀ e, t.checkNames rule = .error e ↔ ∃ before name after,
        t.names = before ++ name :: after ∧
        (before.Pairwise fun a b => rule.sameName a b = false) ∧
        (∃ earlier ∈ before, rule.sameName earlier name = true) ∧ e = .repeated name) ∧
    ∀ t : Template, t.checkNames .ignoring = .ok () → t.checkNames .exact = .ok () := by
  refine ⟨fun rule => ?_, fun _ _ => CaseRule.agree_of_sameBytes, fun a b => ?_,
    CaseRule.sameName_eq, fun rule t => ?_, fun t passes => ?_⟩
  · rw [CaseRule.sameName_eq]
    exact CaseRule.sameText_equivalence rule
  · rw [CaseRule.sameName_eq]
    exact CaseRule.sameText_eq_agree .ignoring a b
  · rw [CaseRule.sameName_eq]
    exact ⟨checkNames_eq_ok_iff, fun _ => checkNames_eq_error_iff⟩
  · apply checkNames_eq_ok_iff.2
    exact (checkNames_eq_ok_iff.1 passes).exact

/-- The sharp s takes two bytes, which no case of ASCII touches. -/
theorem street_names_compared :
    CaseRule.sameBytes "Straße".toList "sTRAßE".toList = true ∧
      agree CaseRule.ignoring.same "Straße".toList "sTRAßE".toList = true ∧
      checkNames .ignoring ⟨"{Straße}-{Ort}".toList,
        [.placeholder "Straße".toList, .literal ['-'], .placeholder "Ort".toList]⟩ = .ok () ∧
      checkNames .exact ⟨"{Straße}-{Ort}".toList,
        [.placeholder "Straße".toList, .literal ['-'], .placeholder "Ort".toList]⟩ = .ok () := by
  have short : CaseRule.sameBytes "Straße".toList "sTRAßE".toList = true := by decide
  have passes : checkNames .ignoring ⟨"{Straße}-{Ort}".toList,
      [.placeholder "Straße".toList, .literal ['-'], .placeholder "Ort".toList]⟩ = .ok () := by
    decide
  exact ⟨short, names_compared.2.1 _ _ short, passes, names_compared.2.2.2.2.2 _ passes⟩

end Template
end Phrasebook
