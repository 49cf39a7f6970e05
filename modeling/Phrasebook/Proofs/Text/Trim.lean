import Phrasebook.Text.Basic
import Phrasebook.Text.Blank

/-! Trimming. The core of a text is what is left between the white space at its two ends: it starts and
ends with a character that shows, unless nothing is left. -/
namespace Phrasebook.Text

/-- The text is the core with white space around it, and the core has none at its ends. -/
structure Trimmed (t core : Text) : Prop where
  around : ∃ lead tail, t = lead ++ core ++ tail ∧ (∀ c ∈ lead, isBlank c = true) ∧
    ∀ c ∈ tail, isBlank c = true
  first : ∀ c, core.head? = some c → isBlank c = false
  last : ∀ c, core.getLast? = some c → isBlank c = false

variable {t core lead tail : Text}

theorem trimStart_sound (t : Text) :
    (∃ lead, t = lead ++ trimStart t ∧ ∀ c ∈ lead, isBlank c = true) ∧
      ∀ c, (trimStart t).head? = some c → isBlank c = false := by
  refine ⟨⟨t.takeWhile isBlank, List.takeWhile_append_dropWhile.symm, ?_⟩, fun c first => ?_⟩
  · exact fun c member => List.all_eq_true.1 List.all_takeWhile c member
  · have kept := List.head?_dropWhile_not isBlank t
    rw [trimStart] at first
    rwa [first] at kept

theorem trimStart_append (blank : ∀ c ∈ lead, isBlank c = true) :
    trimStart (lead ++ t) = trimStart t := List.dropWhile_append_of_pos blank

theorem trimStart_cons {c : Char} (shown : isBlank c = false) : trimStart (c :: t) = c :: t :=
  List.dropWhile_cons_of_neg (by simp [shown])

/-- Whatever ends the text, a core that is not empty keeps its first character. -/
theorem trim_sound (t : Text) : Trimmed t (trim t) := by
  obtain ⟨⟨lead, whole, leading⟩, first⟩ := trimStart_sound t
  obtain ⟨tail, split, trailing, last⟩ := dropEnd_eq_iff.1 (rfl : trim t = trim t)
  refine ⟨⟨lead, tail, ?_, leading, trailing⟩, fun c head => first c ?_, last⟩
  · rw [List.append_assoc, ← split, ← whole]
  · rw [split, List.head?_append, head, Option.some_or]

/-- The white space of a text that is all white space can be divided in many ways, but its core is
empty in each. -/
theorem Trimmed.trim_eq (h : Trimmed t core) : trim t = core := by
  obtain ⟨⟨lead, tail, rfl, leading, trailing⟩, first, last⟩ := h
  cases core with
  | nil =>
    have nothing : trimStart (lead ++ [] ++ tail) = [] := by
      rw [List.append_nil, trimStart_append leading, ← List.append_nil tail,
        trimStart_append trailing]
      rfl
    rw [trim, nothing]
    rfl
  | cons c core =>
    rw [trim, List.append_assoc, trimStart_append leading, List.cons_append,
      trimStart_cons (first c rfl)]
    exact dropEnd_eq_iff.2 ⟨tail, rfl, trailing, last⟩

/-- Trimming is the one way to divide a text into white space and a core. -/
theorem trim_eq_iff : trim t = core ↔ Trimmed t core := by
  constructor
  · rintro rfl
    exact trim_sound t
  · exact Trimmed.trim_eq

theorem exists_trimmed_iff {P : Text → Prop} : (∃ core, Trimmed t core ∧ P core) ↔ P (trim t) := by
  simp only [← trim_eq_iff, exists_eq_left']

/-- A text without any white space is what trimming leaves of it with white space around it. -/
theorem Trimmed.of_no_blank (leading : ∀ c ∈ lead, isBlank c = true)
    (shown : ∀ c ∈ core, isBlank c = false) (trailing : ∀ c ∈ tail, isBlank c = true) :
    Trimmed (lead ++ core ++ tail) core :=
  ⟨⟨lead, tail, rfl, leading, trailing⟩, fun c head => shown c (List.mem_of_head? head),
    fun c last => shown c (List.mem_of_getLast? last)⟩

end Phrasebook.Text
