import Phrasebook.Proofs.Template.Spans
import Phrasebook.Proofs.Text.Trim

/-! Braces decide the spans of a text; what stands between them does not matter. Text whose braces
come in even numbers and end no span can stand before any other text without changing its spans. -/
namespace Phrasebook.Template

/-- The braces of a text, in order. -/
def braces (t : Text) : Text := t.filter fun c => c = '{' || c = '}'

variable {t u : Text}

@[simp] theorem braces_append (t u : Text) : braces (t ++ u) = braces t ++ braces u :=
  List.filter_append ..

theorem braces_blank (blank : ∀ c ∈ t, Text.isBlank c = true) : braces t = [] := by
  refine List.filter_eq_nil_iff.2 fun c member brace => ?_
  have shown := blank c member
  simp only [Bool.or_eq_true, decide_eq_true_eq] at brace
  rcases brace with rfl | rfl
  · exact absurd shown (by decide)
  · exact absurd shown (by decide)

theorem braces_trim (t : Text) : braces (Text.trim t) = braces t := by
  obtain ⟨lead, tail, whole, leading, trailing⟩ := (Text.trim_sound t).around
  rw [whole, braces_append, braces_append, braces_blank leading, braces_blank trailing, ← whole,
    List.nil_append, List.append_nil]

theorem count_opening (t : Text) : (braces t).count '{' = t.count '{' :=
  List.count_filter (by decide)

theorem count_closing (t : Text) : (braces t).count '}' = t.count '}' :=
  List.count_filter (by decide)

theorem closes_congr (same : braces t = braces u) : Closes t ↔ Closes u := by
  have opening : t.count '{' = u.count '{' := by rw [← count_opening, same, count_opening]
  have closing : t.count '}' = u.count '}' := by rw [← count_closing, same, count_closing]
  constructor
  · rintro ⟨odd, odd'⟩
    exact ⟨opening ▸ odd, by simpa [List.count_append, closing] using odd'⟩
  · rintro ⟨odd, odd'⟩
    exact ⟨opening.symm ▸ odd, by simpa [List.count_append, closing] using odd'⟩

/-- Where a closing brace stands among the braces tells whether it ends a span. -/
theorem open_congr (same : braces t = braces u) (unclosed : Open t) : Open u := by
  intro front back split
  have cut : braces t = braces front ++ '}' :: braces back := by
    rw [same, split, braces_append]
    rfl
  obtain ⟨before, after, rfl, samefront, rest⟩ := List.filter_eq_append_iff.1 cut
  obtain ⟨skipped, back', rfl, none, _, _⟩ := List.filter_eq_cons_iff.1 rest
  have front' : braces (before ++ skipped) = braces front := by
    rw [braces_append, show braces skipped = [] from List.filter_eq_nil_iff.2 none, List.append_nil]
    exact samefront
  rw [← closes_congr front']
  exact unclosed (before ++ skipped) back' (by simp)

/-- Text that leaves both switches off and ends no span. -/
structure Settled (t : Text) : Prop where
  opening : t.count '{' % 2 = 0
  closing : t.count '}' % 2 = 0
  unclosed : Open t

theorem settled_nil : Settled [] := ⟨rfl, rfl, by simp [Open]⟩

theorem Settled.closes_append_iff (h : Settled t) : Closes (t ++ u) ↔ Closes u := by
  have opening := h.opening
  have closing := h.closing
  constructor
  · rintro ⟨odd, odd'⟩
    simp only [List.count_append, List.count_singleton_self] at odd odd'
    exact ⟨by omega, by rw [List.count_append, List.count_singleton_self]; omega⟩
  · rintro ⟨odd, odd'⟩
    simp only [List.count_append, List.count_singleton_self] at odd'
    exact ⟨by rw [List.count_append]; omega,
      by rw [List.count_append, List.count_append, List.count_singleton_self]; omega⟩

theorem Open.left (h : Open (t ++ u)) : Open t := by
  rintro front back rfl
  exact h front (back ++ u) (by simp)

theorem Settled.open_append (h : Settled t) (unclosed : Open u) : Open (t ++ u) := by
  intro front back split
  rcases List.append_eq_append_iff.1 split with ⟨gap, rfl, inside⟩ | ⟨gap, rfl, inside⟩
  · rw [h.closes_append_iff]
    exact unclosed gap back inside
  · cases gap with
    | nil =>
      have stays := unclosed [] back inside.symm
      rw [List.append_nil] at h
      rwa [← h.closes_append_iff, List.append_nil] at stays
    | cons c gap =>
      obtain ⟨rfl, rfl⟩ := List.cons.inj inside
      exact h.unclosed front gap rfl

theorem Settled.append (h : Settled t) (k : Settled u) : Settled (t ++ u) := by
  have opening := h.opening
  have closing := h.closing
  have opening' := k.opening
  have closing' := k.closing
  exact ⟨by rw [List.count_append]; omega, by rw [List.count_append]; omega,
    h.open_append k.unclosed⟩

/-- A pair of empty braces stands behind text that is settled. -/
theorem settled_of_empty_name (closes : Closes (t ++ ['{'])) (unclosed : Open (t ++ ['{'])) :
    Settled t := by
  obtain ⟨odd, odd'⟩ := closes
  simp only [List.count_append, List.count_singleton_self] at odd
  have plain : ['{'].count '}' = 0 := by decide
  simp only [List.count_append, List.count_singleton_self, plain] at odd'
  exact ⟨by omega, by omega, unclosed.left⟩

end Phrasebook.Template
