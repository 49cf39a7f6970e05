import Phrasebook.Text.Basic

/-! The pieces of a text between separators. They come apart where texts were joined, at each
separator and nowhere else. -/
namespace Phrasebook.Text

variable {separator : Char}

theorem pieces_append_cons (x y : Text) :
    pieces separator (x ++ separator :: y) = pieces separator x ++ pieces separator y := by
  induction x with
  | nil => simp [pieces]
  | cons c x ih =>
    by_cases cut : c = separator
    · simp [pieces, cut, ih]
    · rw [List.cons_append, pieces, pieces, if_neg cut, if_neg cut, ih]
      cases front : pieces separator x with
      | nil => exact absurd front (pieces_ne_nil separator x)
      | cons piece more => rfl

theorem pieces_of_notMem {t : Text} (free : separator ∉ t) : pieces separator t = [t] := by
  induction t with
  | nil => rfl
  | cons c t ih =>
    obtain ⟨here, later⟩ := List.ne_and_not_mem_of_not_mem_cons free
    rw [pieces, if_neg (Ne.symm here), ih later]

theorem notMem_of_mem_pieces {t piece : Text} (member : piece ∈ pieces separator t) :
    separator ∉ piece := by
  induction t generalizing piece with
  | nil =>
    cases List.mem_singleton.1 member
    exact List.not_mem_nil
  | cons c t ih =>
    by_cases cut : c = separator
    · rw [pieces, if_pos cut] at member
      rcases List.mem_cons.1 member with rfl | later
      · exact List.not_mem_nil
      · exact ih later
    · rw [pieces, if_neg cut] at member
      cases front : pieces separator t with
      | nil => exact absurd front (pieces_ne_nil separator t)
      | cons first more =>
        rw [front] at member ih
        rcases List.mem_cons.1 member with rfl | later
        · exact List.not_mem_cons_of_ne_of_not_mem (Ne.symm cut) (ih List.mem_cons_self)
        · exact ih (List.mem_cons_of_mem first later)

/-- Texts that are free of the separator come apart as they were joined. -/
theorem pieces_joined {texts : List Text} (some : texts ≠ [])
    (free : ∀ t ∈ texts, separator ∉ t) : pieces separator (joined [separator] texts) = texts := by
  induction texts with
  | nil => exact absurd rfl some
  | cons t texts ih =>
    obtain ⟨here, later⟩ := List.forall_mem_cons.1 free
    cases texts with
    | nil => exact pieces_of_notMem here
    | cons u texts =>
      rw [joined, List.append_assoc, List.singleton_append, pieces_append_cons,
        pieces_of_notMem here, ih (List.cons_ne_nil u texts) later]
      rfl

end Phrasebook.Text
