import Mathlib.Algebra.Ring.Int.Defs
import Phrasebook.Number.Integer

/-! Integers as text. A numeral has a sign or none and then decimal digits, of which leading zeros do
not count. Reading stops early at a digit that leaves the range, and yet it accepts just the numerals
of the integers in the range. -/
namespace Phrasebook

/-- The range of a width in two's complement, and without a sign. -/
def IntType.InRange (t : IntType) (n : Int) : Prop :=
  if t.signed then -(2 ^ (t.width.bits - 1) : Int) ≤ n ∧ n < 2 ^ (t.width.bits - 1)
  else 0 ≤ n ∧ n < 2 ^ t.width.bits

theorem IntType.inRange_iff {t : IntType} {n : Int} :
    t.InRange n ↔ -(t.depth : Int) ≤ n ∧ n ≤ t.height := by
  have positive (k : Nat) : 1 ≤ 2 ^ k := Nat.one_le_two_pow
  have cast (k : Nat) : ((2 ^ k : Nat) : Int) = 2 ^ k := Int.natCast_pow 2 k
  have half := positive (t.width.bits - 1)
  have full := positive t.width.bits
  unfold InRange depth height
  rw [← cast, ← cast]
  simp only [Nat.pow_eq]
  split <;> omega

theorem IntType.inRange_iff_exists {t : IntType} {n : Int} :
    t.InRange n ↔ ∃ b : Bounded t, b.val = n := by
  rw [inRange_iff]
  constructor
  · rintro ⟨lower, upper⟩
    exact ⟨⟨n, lower, upper⟩, rfl⟩
  · rintro ⟨b, rfl⟩
    exact ⟨b.lower, b.upper⟩

theorem Bounded.ext {t : IntType} {m n : Bounded t} (same : m.val = n.val) : m = n := by
  cases m
  cases n
  cases same
  rfl

theorem Bounded.signed_of_neg {t : IntType} (b : Bounded t) (negative : b.val < 0) :
    t.signed = true := by
  have lower := b.lower
  unfold IntType.depth at lower
  split at lower
  next sign => exact sign
  next => omega

namespace Number

/-- One digit at least, and nothing but digits. -/
structure Digits (t : Text) : Prop where
  some : t ≠ []
  digit : ∀ c ∈ t, c.isDigit = true

/-- The integer that a numeral stands for. A minus needs a signed type. -/
inductive Denotes (signed : Bool) : Text → Int → Prop where
  | plain {digits : Text} (h : Digits digits) :
      Denotes signed digits (Nat.ofDigitChars 10 digits 0)
  | plus {digits : Text} (h : Digits digits) :
      Denotes signed ('+' :: digits) (Nat.ofDigitChars 10 digits 0)
  | minus {digits : Text} (sign : signed = true) (h : Digits digits) :
      Denotes signed ('-' :: digits) (-(Nat.ofDigitChars 10 digits 0 : Int))

variable {t : IntType} {signed : Bool} {digits text : Text} {n : Int} {c : Char}

section Denotes

theorem digits_iff (some : digits ≠ []) : Digits digits ↔ ∀ c ∈ digits, c.isDigit = true :=
  ⟨Digits.digit, fun all => ⟨some, all⟩⟩

theorem Digits.head (h : Digits (c :: digits)) : c.isDigit = true := h.digit c (List.mem_cons_self ..)

theorem denotes_plus_iff :
    Denotes signed ('+' :: digits) n ↔ Digits digits ∧ n = Nat.ofDigitChars 10 digits 0 := by
  constructor
  · intro h
    cases h with
    | plain h => exact absurd h.head (by decide)
    | plus h => exact ⟨h, rfl⟩
  · rintro ⟨h, rfl⟩
    exact .plus h

theorem denotes_minus_iff : Denotes signed ('-' :: digits) n ↔
    signed = true ∧ Digits digits ∧ n = -(Nat.ofDigitChars 10 digits 0 : Int) := by
  constructor
  · intro h
    cases h with
    | plain h => exact absurd h.head (by decide)
    | minus sign h => exact ⟨sign, h, rfl⟩
  · rintro ⟨sign, h, rfl⟩
    exact .minus sign h

theorem denotes_plain_iff (unsigned : text.head? ≠ some '+' ∧ text.head? ≠ some '-') :
    Denotes signed text n ↔ Digits text ∧ n = Nat.ofDigitChars 10 text 0 := by
  constructor
  · intro h
    cases h with
    | plain h => exact ⟨h, rfl⟩
    | plus h => exact absurd rfl unsigned.1
    | minus sign h => exact absurd rfl unsigned.2
  · rintro ⟨h, rfl⟩
    exact .plain h

end Denotes

section Read

theorem digit?_eq_some_iff {d : Nat} :
    digit? c = some d ↔ c.isDigit = true ∧ d = c.toNat - '0'.toNat := by
  have same : ('0' ≤ c ∧ c ≤ '9') ↔ c.isDigit = true := by
    simp [Char.isDigit, Char.le_def]
  unfold digit?
  by_cases digit : c.isDigit = true
  · rw [if_pos (same.2 digit), Option.some_inj]
    exact ⟨fun value => ⟨digit, value.symm⟩, fun value => value.2.symm⟩
  · rw [if_neg (mt same.1 digit)]
    exact ⟨nofun, fun value => absurd value.1 digit⟩

theorem le_ofDigitChars (digits : Text) (n : Nat) : n ≤ Nat.ofDigitChars 10 digits n := by
  induction digits generalizing n with
  | nil => exact Nat.le_refl n
  | cons c digits ih =>
    rw [Nat.ofDigitChars_cons]
    have := ih (10 * n + (c.toNat - '0'.toNat))
    omega

/-- Digits only make the number larger, so it never comes back into a range that it left. -/
theorem readDigits_eq_ok_iff {limit k : Nat} {excess : IntegerError} {h : k ≤ limit}
    {m : { m : Nat // m ≤ limit }} :
    readDigits limit excess k digits h = .ok m ↔
      (∀ c ∈ digits, c.isDigit = true) ∧ m.1 = Nat.ofDigitChars 10 digits k := by
  induction digits generalizing k with
  | nil =>
    rw [readDigits, Nat.ofDigitChars_nil, Except.ok.injEq, Subtype.ext_iff]
    exact ⟨fun same => ⟨nofun, same.symm⟩, fun all => all.2.symm⟩
  | cons c digits ih =>
    rw [readDigits, Nat.ofDigitChars_cons]
    cases found : digit? c with
    | none =>
      have other : c.isDigit ≠ true := fun digit => by
        simpa [found] using digit?_eq_some_iff.2 ⟨digit, rfl⟩
      exact ⟨nofun, fun all => absurd (all.1 c (List.mem_cons_self ..)) other⟩
    | some d =>
      obtain ⟨digit, rfl⟩ := digit?_eq_some_iff.1 found
      by_cases fits : 10 * k + (c.toNat - '0'.toNat) ≤ limit
      · simp only [fits, dif_pos, ih, List.forall_mem_cons, digit, true_and]
      · have grows := le_ofDigitChars digits (10 * k + (c.toNat - '0'.toNat))
        have bound := m.2
        simp only [fits, dif_neg, not_false_eq_true, reduceCtorEq, false_iff]
        rintro ⟨_, value⟩
        omega

theorem map_readDigits_eq_ok_iff {α : Type} {limit : Nat} {excess : IntegerError}
    {f : { m : Nat // m ≤ limit } → α} {a : α} :
    (readDigits limit excess 0 digits (Nat.zero_le limit)).map f = .ok a ↔
      (∀ c ∈ digits, c.isDigit = true) ∧
        ∃ fits : Nat.ofDigitChars 10 digits 0 ≤ limit, f ⟨_, fits⟩ = a := by
  constructor
  · intro read
    cases result : readDigits limit excess 0 digits (Nat.zero_le limit) with
    | error e => rw [result] at read; cases read
    | ok m =>
      rw [result] at read
      obtain ⟨m, fits⟩ := m
      obtain ⟨all, rfl⟩ := readDigits_eq_ok_iff.1 result
      exact ⟨all, fits, Except.ok.inj read⟩
  · rintro ⟨all, fits, rfl⟩
    rw [readDigits_eq_ok_iff (m := ⟨_, fits⟩).2 ⟨all, rfl⟩]
    rfl

theorem readUpward_eq_ok_iff {b : Bounded t} : readUpward t digits = .ok b ↔
    (∀ c ∈ digits, c.isDigit = true) ∧ b.val = Nat.ofDigitChars 10 digits 0 := by
  rw [readUpward, map_readDigits_eq_ok_iff]
  constructor
  · rintro ⟨all, fits, rfl⟩
    exact ⟨all, rfl⟩
  · rintro ⟨all, value⟩
    exact ⟨all, by have := b.upper; omega, Bounded.ext value.symm⟩

theorem readDownward_eq_ok_iff {b : Bounded t} : readDownward t digits = .ok b ↔
    (∀ c ∈ digits, c.isDigit = true) ∧ b.val = -(Nat.ofDigitChars 10 digits 0 : Int) := by
  rw [readDownward, map_readDigits_eq_ok_iff]
  constructor
  · rintro ⟨all, fits, rfl⟩
    exact ⟨all, rfl⟩
  · rintro ⟨all, value⟩
    exact ⟨all, by have := b.lower; omega, Bounded.ext value.symm⟩

/-- Reading accepts the numerals of the type and gives what they denote. -/
theorem readInteger_eq_ok_iff {b : Bounded t} :
    readInteger t text = .ok b ↔ Denotes t.signed text b.val := by
  unfold readInteger
  -- In the order of the patterns: no text, a sign alone, a sign with text after it, no sign.
  split
  · exact ⟨nofun, fun h => absurd rfl ((denotes_plain_iff (by simp)).1 h).1.some⟩
  · exact ⟨nofun, fun h => absurd rfl (denotes_plus_iff.1 h).1.some⟩
  · exact ⟨nofun, fun h => absurd rfl (denotes_minus_iff.1 h).2.1.some⟩
  next digits some => rw [readUpward_eq_ok_iff, denotes_plus_iff, digits_iff some]
  next digits some =>
    rw [denotes_minus_iff, digits_iff some]
    split
    next sign => simp only [sign, true_and, readDownward_eq_ok_iff]
    next sign => exact ⟨nofun, fun h => absurd h.1 sign⟩
  next some _ _ noPlus noMinus =>
    have unsigned : text.head? ≠ Option.some '+' ∧ text.head? ≠ Option.some '-' := by
      cases text with
      | nil => simp
      | cons c rest =>
        simp only [List.head?_cons, ne_eq, Option.some_inj]
        exact ⟨fun h => noPlus rest (h ▸ rfl), fun h => noMinus rest (h ▸ rfl)⟩
    rw [readUpward_eq_ok_iff, denotes_plain_iff unsigned, digits_iff some]

end Read

section Written

/-- The decimal text of an integer, with any number of zeros in front of the digits. -/
def written (zeros : Nat) (n : Int) : Text :=
  (if n < 0 then ['-'] else []) ++ (List.replicate zeros '0' ++ Nat.toDigits 10 n.natAbs)

/-- Without leading zeros it is the text that an integer is shown as. -/
theorem written_zero (n : Int) : written 0 n = (toString n).toList := by
  rw [Int.toString_eq_repr, Int.repr_eq_if, written, List.replicate_zero, List.nil_append]
  by_cases negative : n < 0
  · rw [if_pos negative, if_neg (by omega), String.toList_append, Nat.toList_repr,
      show (-n).toNat = n.natAbs by omega]
    rfl
  · rw [if_neg negative, if_pos (by omega), Nat.toList_repr, show n.toNat = n.natAbs by omega,
      List.nil_append]

theorem digits_written (zeros k : Nat) : Digits (List.replicate zeros '0' ++ Nat.toDigits 10 k) := by
  refine ⟨List.append_ne_nil_of_right_ne_nil _ Nat.toDigits_ne_nil, fun c member => ?_⟩
  rcases List.mem_append.1 member with zero | digit
  · rw [List.eq_of_mem_replicate zero]
    rfl
  · exact Nat.isDigit_of_mem_toDigits (by decide) (by decide) digit

theorem ofDigitChars_written (zeros k : Nat) :
    Nat.ofDigitChars 10 (List.replicate zeros '0' ++ Nat.toDigits 10 k) 0 = k := by
  rw [Nat.ofDigitChars_append, Nat.ofDigitChars_replicate_zero, Nat.mul_zero,
    Nat.ofDigitChars_ten_toDigits]

theorem denotes_written (zeros : Nat) (sign : n < 0 → signed = true) :
    Denotes signed (written zeros n) n := by
  have digits := digits_written zeros n.natAbs
  have value := ofDigitChars_written zeros n.natAbs
  by_cases negative : n < 0
  · rw [written, if_pos negative, List.singleton_append]
    exact denotes_minus_iff.2 ⟨sign negative, digits, by rw [value]; omega⟩
  · have plain : Denotes signed _ _ := .plain digits
    rw [value, show (n.natAbs : Int) = n by omega] at plain
    rwa [written, if_neg negative, List.nil_append]

end Written

end Number
end Phrasebook
