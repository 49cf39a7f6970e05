import Phrasebook.Proofs.Template.Leftmost
import Phrasebook.Proofs.Text.Slice

/-! Searching a line from a byte offset on. Under the exact rule an occurrence takes as many bytes
as the text searched for. A letter and its other case may differ in bytes, so ignoring case the
characters that were found are measured. -/
namespace Phrasebook

open Slicing Occurrence

namespace Text

/-- The byte offset of the first place at which `x` stands. -/
def firstOffset? (x : Text) : Text → Option Nat
  | [] => if x = [] then some 0 else none
  | c :: t =>
    if x.isPrefixOf (c :: t) then some 0 else (firstOffset? x t).map (c.utf8Size + ·)

/-- The byte offset behind the characters that `x` takes, ignoring case. -/
def covered? (stop : Nat) : List (Nat × Char) → Text → Option Nat
  | [], [] => some stop
  | (i, _) :: _, [] => some i
  | [], _ :: _ => none
  | (_, actual) :: chars, expected :: x =>
    if CaseRule.ignoring.same actual expected then covered? stop chars x else none

/-- The bytes of `t` that `x` covers at its start, ignoring case. -/
def prefixSize? (t x : Text) : Option Nat := covered? (byteSize t) (t.indexed 0) x

theorem firstOffset?_eq {x : Text} (nonempty : x ≠ []) (t : Text) :
    firstOffset? x t = (first? .exact x t).map fun o => byteSize o.before := by
  induction t with
  | nil => simp [firstOffset?, first?, nonempty]
  | cons c t ih =>
    have here : x.isPrefixOf (c :: t) = (atStart? .exact x (c :: t)).isSome := by
      rw [Bool.eq_iff_iff, List.isPrefixOf_iff_prefix, Option.isSome_iff_exists, Prod.exists]
      constructor
      · rintro ⟨after, whole⟩
        exact ⟨x, after, atStart?_eq_some_iff.2 ⟨whole.symm, CaseRule.sameText_refl _ x⟩⟩
      · rintro ⟨found, after, start⟩
        obtain ⟨whole, same⟩ := atStart?_eq_some_iff.1 start
        exact ⟨after, by rw [whole, CaseRule.sameText_exact_iff.1 same]⟩
    rw [firstOffset?, first?, here, ih]
    cases atStart? .exact x (c :: t) with
    | none => simp [Function.comp_def]
    | some cut => simp

theorem covered?_eq (base : Nat) (t x : Text) :
    covered? (base + byteSize t) (indexed base t) x =
      (atStart? .ignoring x t).map fun cut => base + byteSize cut.1 := by
  induction x generalizing base t with
  | nil => cases t <;> simp [covered?, indexed, atStart?]
  | cons a x ih =>
    cases t with
    | nil => simp [covered?, indexed, atStart?]
    | cons c t =>
      by_cases same : CaseRule.ignoring.same c a = true
      · have here := ih (base + c.utf8Size) t
        rw [Nat.add_assoc] at here
        simp [covered?, indexed, atStart?, same, here, Function.comp_def, Nat.add_assoc]
      · simp [covered?, indexed, atStart?, same]

theorem prefixSize?_eq (t x : Text) :
    prefixSize? t x = (atStart? .ignoring x t).map fun cut => byteSize cut.1 := by
  simpa [prefixSize?] using covered?_eq 0 t x

/-- Tries one character after another. -/
def searchAlong (t x : Text) : List (Nat × Char) → Slicing (Option (Nat × Nat))
  | [] => return none
  | (i, _) :: chars => do
    let here ← slice ⟨t, i, byteSize t⟩
    match prefixSize? here x with
    | some size => return some (i, size)
    | none => searchAlong t x chars

/-- The byte offset of the first occurrence of `x` and the bytes that it takes. -/
def search (rule : CaseRule) (t x : Text) : Slicing (Option (Nat × Nat)) :=
  match rule with
  | .exact => return (firstOffset? x t).map fun i => (i, byteSize x)
  | .ignoring => searchAlong t x (t.indexed 0)

/-- The byte offsets at which the first occurrence of `x` behind another offset starts and ends. -/
def searchFrom (rule : CaseRule) (line x : Text) (offset : Nat) :
    Slicing (Option (Nat × Nat)) := do
  match ← slice? ⟨line, offset, byteSize line⟩ with
  | none => return none
  | some rest => do
    let found ← search rule rest x
    return found.map fun (i, size) => (offset + i, offset + i + size)

variable {rule : CaseRule} {t x : Text}

/-- By induction on the text not tried yet. -/
theorem searchAlong_safe (tried rest : Text) (whole : t = tried ++ rest) :
    (searchAlong t x (rest.indexed (byteSize tried))).Safe
      ((first? .ignoring x rest).map fun o =>
        (byteSize tried + byteSize o.before, byteSize o.found)) := by
  induction rest generalizing tried with
  | nil => exact Safe.pure _
  | cons c rest ih =>
    refine (slice_safe (Slice.read?_from whole)).bind ?_
    rw [prefixSize?_eq, first?]
    cases start : atStart? .ignoring x (c :: rest) with
    | some cut => exact Safe.pure _
    | none =>
      have later := ih (tried ++ [c]) (by simp [whole])
      simp only [byteSize_append, byteSize_cons, byteSize_nil, Nat.add_zero] at later
      simpa [Function.comp_def, Nat.add_assoc] using later

theorem search_safe (nonempty : x ≠ []) :
    (search rule t x).Safe
      ((first? rule x t).map fun o => (byteSize o.before, byteSize o.found)) := by
  cases rule with
  | exact =>
    have sizes : ((first? .exact x t).map fun o => (byteSize o.before, byteSize o.found)) =
        (firstOffset? x t).map fun i => (i, byteSize x) := by
      rw [firstOffset?_eq nonempty, Option.map_map]
      refine Option.map_congr fun o found => ?_
      have same := CaseRule.sameText_exact_iff.1 (first?_leftmost found).cuts.same
      rw [Function.comp_apply, same]
    rw [sizes]
    exact Safe.pure _
  | ignoring => simpa [search] using searchAlong_safe [] t rfl

theorem searchFrom_safe (rule : CaseRule) {line front rest : Text} (nonempty : x ≠ [])
    (whole : line = front ++ rest) :
    (searchFrom rule line x (byteSize front)).Safe
      ((first? rule x rest).map fun o =>
        (byteSize front + o.bytes.1, byteSize front + o.bytes.2)) := by
  refine (slice?_safe (Slice.read?_from whole)).bind ((search_safe nonempty).bind ?_)
  simpa [Function.comp_def, bytes, Nat.add_assoc] using Safe.pure _

/-- What is found lies in the line, not before the offset. -/
theorem searchFrom_in_range {line front rest : Text} {start stop : Nat} (nonempty : x ≠ [])
    (whole : line = front ++ rest)
    (found : (searchFrom rule line x (byteSize front)).result = .ok (some (start, stop))) :
    byteSize front ≤ start ∧ Slice.InRange ⟨line, start, stop⟩ := by
  have result := (searchFrom_safe rule nonempty whole).eq_of_result found
  obtain ⟨o, first, ends⟩ := Option.map_eq_some_iff.1 result
  cases ends
  have cut : line = front ++ o.before ++ o.found ++ o.after := by
    rw [whole, first?_append first]
    simp
  refine ⟨Nat.le_add_right _ _, .of_read? (u := o.found) (Slice.read?_eq_some_iff.2 ?_)⟩
  exact ⟨front ++ o.before, o.after, cut, by simp [bytes], by simp [bytes]⟩

end Text
end Phrasebook
