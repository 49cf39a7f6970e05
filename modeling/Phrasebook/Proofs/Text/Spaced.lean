import Mathlib.Data.List.Basic
import Phrasebook.Proofs.Text.Trim

/-! Texts in a row with single blanks. Where each of them starts and ends with a character that
shows, trimming takes off what stands around the row and nothing of it. -/
namespace Phrasebook.Text

/-- Text with something to see at both ends. -/
structure Solid (t : Text) : Prop where
  nonempty : t ≠ []
  first : ∀ c, t.head? = some c → isBlank c = false
  last : ∀ c, t.getLast? = some c → isBlank c = false

/-- Texts with a blank before each. -/
def spaced (texts : List Text) : Text := texts.flatMap (' ' :: ·)

variable {t : Text} {texts : List Text}

@[simp] theorem spaced_nil : spaced [] = [] := rfl

@[simp] theorem spaced_cons (t : Text) (texts : List Text) :
    spaced (t :: texts) = ' ' :: t ++ spaced texts := rfl

@[simp] theorem spaced_append (texts more : List Text) :
    spaced (texts ++ more) = spaced texts ++ spaced more := List.flatMap_append

theorem cons_joined (some : texts ≠ []) : ' ' :: joined [' '] texts = spaced texts := by
  induction texts with
  | nil => exact absurd rfl some
  | cons t texts ih =>
    cases texts with
    | nil => simp [joined]
    | cons u texts => simpa [joined] using ih (List.cons_ne_nil u texts)

theorem joined_eq_tail (texts : List Text) : joined [' '] texts = (spaced texts).tail := by
  cases texts with
  | nil => rfl
  | cons t texts => rw [← cons_joined (List.cons_ne_nil t texts), List.tail_cons]

theorem solid_joined (some : texts ≠ []) (solid : ∀ t ∈ texts, Solid t) :
    Solid (joined [' '] texts) := by
  induction texts with
  | nil => exact absurd rfl some
  | cons t texts ih =>
    obtain ⟨here, later⟩ := List.forall_mem_cons.1 solid
    cases texts with
    | nil => exact here
    | cons u texts =>
      have rest := ih (List.cons_ne_nil u texts) later
      refine ⟨by simp [joined, here.nonempty], fun c head => here.first c ?_,
        fun c last => rest.last c ?_⟩
      · rwa [joined, List.append_assoc, List.head?_append_of_ne_nil _ here.nonempty] at head
      · rwa [joined, List.getLast?_append_of_ne_nil _ rest.nonempty] at last

theorem trim_solid (some : trim t ≠ []) : Solid (trim t) :=
  ⟨some, (trim_sound t).first, (trim_sound t).last⟩

theorem isBlank_space : isBlank ' ' = true := by decide

theorem trim_eq_nil_iff : trim t = [] ↔ ∀ c ∈ t, isBlank c = true := by
  constructor
  · intro empty
    obtain ⟨lead, tail, whole, leading, trailing⟩ := (trim_sound t).around
    rw [empty, List.append_nil] at whole
    intro c member
    rw [whole, List.mem_append] at member
    exact member.elim (leading c) (trailing c)
  · intro blank
    exact Trimmed.trim_eq ⟨⟨t, [], by simp, blank, nofun⟩, nofun, nofun⟩

theorem trim_space_cons (t : Text) : trim (' ' :: t) = trim t := by
  have space : ∀ c ∈ [' '], isBlank c = true := by simp [isBlank_space]
  rw [trim, trim, ← trimStart_append (t := t) space, List.singleton_append]

/-- The blanks before, between and after solid texts leave the joined texts when they are trimmed.
-/
theorem trim_spaced (some : texts ≠ []) (solid : ∀ t ∈ texts, Solid t) {tail : Text}
    (trailing : ∀ c ∈ tail, isBlank c = true) :
    trim (spaced texts ++ tail) = joined [' '] texts := by
  obtain ⟨_, first, last⟩ := solid_joined some solid
  refine Trimmed.trim_eq ⟨⟨[' '], tail, ?_, by simp [isBlank_space], trailing⟩, first, last⟩
  rw [← cons_joined some]
  rfl

end Phrasebook.Text
