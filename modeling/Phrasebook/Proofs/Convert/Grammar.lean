import Mathlib
import Phrasebook.Proofs.Convert.Offers
import Phrasebook.Proofs.Number.Numeral
import Phrasebook.Proofs.Text.Trim

/-! The texts that the built-in conversions accept. Numbers and truth values may have white space
around them, a character may not, and a text is taken as it is. -/
namespace Phrasebook

namespace Convert

variable {t : IntType} {raw core word : Text}

/-- The word in any mixture of cases, where only ASCII letters have two. -/
def Spells (word core : Text) : Prop := List.Forall₂ (fun x c => c = x ∨ c = x.toUpper) word core

theorem toLower_eq_iff {c x : Char} (lower : x.isLower = true) :
    c.toLower = x ↔ c = x ∨ c = x.toUpper := by
  have stays : x.toLower = x := Char.toLower_eq_of_not_isUpper (Char.not_isUpper_of_isLower lower)
  constructor
  · rintro rfl
    by_cases small : c.isLower = true
    · exact .inl (Char.toLower_eq_of_not_isUpper (Char.not_isUpper_of_isLower small)).symm
    · rw [Char.toUpper_toLower_eq_toUpper]
      exact .inr (Char.toUpper_eq_of_not_isLower small).symm
  · rintro (rfl | rfl)
    · exact stays
    · rw [Char.toLower_toUpper_eq_toLower, stays]

theorem map_toLower_eq_iff (lower : ∀ x ∈ word, x.isLower = true) :
    core.map Char.toLower = word ↔ Spells word core := by
  induction word generalizing core with
  | nil => simp [Spells]
  | cons x word ih =>
    obtain ⟨first, others⟩ := List.forall_mem_cons.1 lower
    cases core with
    | nil => simp [Spells]
    | cons c core =>
      simp only [List.map_cons, List.cons.injEq, toLower_eq_iff first, ih others, Spells,
        List.forall₂_cons]

def truthWord (b : Bool) : Text := if b then "true".toList else "false".toList

/-- The second word is looked for when the first is not there, and no text spells both. -/
theorem readBool_eq_ok_iff {b : Bool} :
    readBool raw = .ok b ↔ Spells (truthWord b) (Text.trim raw) := by
  have lower : ∀ x ∈ truthWord b, x.isLower = true := by cases b <;> simp [truthWord]
  rw [← map_toLower_eq_iff lower]
  unfold readBool
  generalize (Text.trim raw).map Char.toLower = lowered
  by_cases yes : lowered = "true".toList
  · subst yes
    cases b <;> simp [truthWord]
  · by_cases no : lowered = "false".toList
    · subst no
      cases b <;> simp [truthWord]
    · have neither : lowered ≠ truthWord b := by
        cases b with
        | true => exact yes
        | false => exact no
      simp only [if_neg yes, if_neg no, reduceCtorEq, neither]

theorem readChar_eq_ok_iff {c : Char} : readChar raw = .ok c ↔ raw = [c] := by
  unfold readChar
  split
  next d => simp
  next other => exact ⟨nofun, fun single => absurd single (other c)⟩

theorem readInteger_eq_ok_iff {b : Bounded t} :
    readInteger t raw = .ok b ↔ Number.Denotes t.signed (Text.trim raw) b.val := by
  rw [← Number.readInteger_eq_ok_iff, readInteger]
  cases Number.readInteger t (Text.trim raw) <;> simp [Except.mapError]

theorem isBlank_of_isDigit {c : Char} (digit : c.isDigit = true) : Text.isBlank c = false := by
  have range : 48 ≤ c.toNat ∧ c.toNat ≤ 57 := by
    simpa [Char.isDigit, UInt32.le_iff_toNat_le] using digit
  simp only [Text.isBlank, Text.Ranges.mem, Text.blanks, List.any_cons, List.any_nil,
    Bool.or_eq_false_iff, Bool.and_eq_false_iff, decide_eq_false_iff_not, and_true]
  omega

/-- There is no white space inside a numeral. -/
theorem not_isBlank_of_denotes {signed : Bool} {n : Int} (h : Number.Denotes signed core n) :
    ∀ c ∈ core, Text.isBlank c = false := by
  have shown {digits : Text} (h : Number.Digits digits) : ∀ c ∈ digits, Text.isBlank c = false :=
    fun c member => isBlank_of_isDigit (h.digit c member)
  cases h with
  | plain digits => exact shown digits
  | plus digits => exact List.forall_mem_cons.2 ⟨rfl, shown digits⟩
  | minus sign digits => exact List.forall_mem_cons.2 ⟨rfl, shown digits⟩

end Convert

namespace Registry

variable {ι : Type} [HostTypes ι] [DecidableEq ι] {name raw : Text} {b : BuiltinType}

theorem empty_convert_builtin (b : BuiltinType) (name raw : Text) :
    (empty : Registry ι).convert (.builtin b) name raw =
      (Convert.readBuiltin b raw).mapError
        (.failed name (ValueType.builtin b : ValueType ι).name) :=
  convert_of_builtin rfl rfl

theorem empty_convert_builtin_eq_ok_iff {content : b.Carrier} :
    (empty : Registry ι).convert (.builtin b) name raw = .ok content ↔
      Convert.readBuiltin b raw = .ok content := by
  rw [empty_convert_builtin]
  cases Convert.readBuiltin b raw <;> simp [Except.mapError]

theorem empty_convert_builtin_cases (b : BuiltinType) (name raw : Text) :
    (∃ content, (empty : Registry ι).convert (.builtin b) name raw = .ok content) ∨
      ∃ failure, (empty : Registry ι).convert (.builtin b) name raw =
        .error (.failed name (ValueType.builtin b : ValueType ι).name failure) := by
  rw [empty_convert_builtin]
  cases Convert.readBuiltin b raw with
  | ok content => exact .inl ⟨content, rfl⟩
  | error failure => exact .inr ⟨failure, rfl⟩

/-- Without parsers an integer type accepts the numerals of the integers in its range, however many
zeros they start with, a truth value is spelled in any case, and both may have white space around
them. A character stands alone, a text is taken as it is, and whatever else is there fails. -/
theorem builtin_grammar (name raw : Text) :
    (∀ (t : IntType) (n : Int),
      (∃ b : Bounded t, b.val = n ∧
        (empty : Registry ι).convert (.builtin (.integer t)) name raw = .ok b) ↔
        (∃ core, Text.Trimmed raw core ∧ Number.Denotes t.signed core n) ∧ t.InRange n) ∧
    (∀ (t : IntType) (b : Bounded t) (zeros : Nat) (lead tail : Text),
      (∀ c ∈ lead, Text.isBlank c = true) → (∀ c ∈ tail, Text.isBlank c = true) →
      raw = lead ++ Number.written zeros b.val ++ tail →
        (empty : Registry ι).convert (.builtin (.integer t)) name raw = .ok b) ∧
    (∀ b : Bool, (empty : Registry ι).convert (.builtin .bool) name raw = .ok b ↔
      ∃ core, Text.Trimmed raw core ∧ Convert.Spells (Convert.truthWord b) core) ∧
    (∀ c : Char, (empty : Registry ι).convert (.builtin .char) name raw = .ok c ↔ raw = [c]) ∧
    (empty : Registry ι).convert (.builtin .text) name raw = .ok raw ∧
    (∀ b : BuiltinType,
      (∃ content, (empty : Registry ι).convert (.builtin b) name raw = .ok content) ∨
        ∃ failure, (empty : Registry ι).convert (.builtin b) name raw =
          .error (.failed name (ValueType.builtin b : ValueType ι).name failure)) := by
  refine ⟨fun t n => ?_, fun t b zeros lead tail leading trailing whole => ?_, fun b => ?_,
    fun c => ?_, ?_, fun b => empty_convert_builtin_cases b name raw⟩
  · rw [Text.exists_trimmed_iff, IntType.inRange_iff_exists]
    constructor
    · rintro ⟨b, rfl, accepted⟩
      exact ⟨Convert.readInteger_eq_ok_iff.1 (empty_convert_builtin_eq_ok_iff.1 accepted), b, rfl⟩
    · rintro ⟨denotes, b, rfl⟩
      exact ⟨b, rfl, empty_convert_builtin_eq_ok_iff.2 (Convert.readInteger_eq_ok_iff.2 denotes)⟩
  · have denotes : Number.Denotes t.signed (Number.written zeros b.val) b.val :=
      Number.denotes_written zeros b.signed_of_neg
    have trimmed := Text.Trimmed.of_no_blank leading (Convert.not_isBlank_of_denotes denotes) trailing
    rw [← whole] at trimmed
    rw [← trimmed.trim_eq] at denotes
    exact empty_convert_builtin_eq_ok_iff.2 (Convert.readInteger_eq_ok_iff.2 denotes)
  · rw [Text.exists_trimmed_iff]
    exact empty_convert_builtin_eq_ok_iff.trans Convert.readBool_eq_ok_iff
  · exact empty_convert_builtin_eq_ok_iff.trans Convert.readChar_eq_ok_iff
  · rfl

/-- The lowest signed byte is read from far off in white space, and no unsigned byte is read from the
first number that does not fit. -/
theorem byte_limits_read :
    (empty : Registry Demo.HostType).convert (.builtin (.integer ⟨true, .bits8⟩)) "n".toList
        "\t-00128\u3000".toList = .ok ⟨-128, by decide, by decide⟩ ∧
      ∀ b, (empty : Registry Demo.HostType).convert (.builtin (.integer ⟨false, .bits8⟩))
        "n".toList "+256".toList ≠ .ok b := by
  have blank {b : Char} (h : Text.isBlank b = true) : ∀ c ∈ [b], Text.isBlank c = true :=
    fun c member => List.mem_singleton.1 member ▸ h
  constructor
  · obtain ⟨_, written, _⟩ :=
      builtin_grammar (ι := Demo.HostType) "n".toList "\t-00128\u3000".toList
    exact written ⟨true, .bits8⟩ _ 2 ['\t'] ['\u3000'] (blank rfl) (blank rfl) rfl
  · intro b accepted
    obtain ⟨integers, _⟩ := builtin_grammar (ι := Demo.HostType) "n".toList "+256".toList
    obtain ⟨numeral, _, upper⟩ := (integers ⟨false, .bits8⟩ b.val).1 ⟨b, rfl, accepted⟩
    have denotes : Number.Denotes false ('+' :: "256".toList) b.val :=
      Text.exists_trimmed_iff.1 numeral
    have value : b.val = 256 := (Number.denotes_plus_iff.1 denotes).2
    exact absurd upper (by rw [value]; decide)

end Registry
end Phrasebook
