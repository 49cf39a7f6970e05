import Phrasebook.Template.Occurrence

/-! What a search finds is the leftmost occurrence. Whether an occurrence is leftmost depends on
the text up to its end only, so no look at the rest of the text can overturn it. -/
namespace Phrasebook.Occurrence

variable {rule : CaseRule} {x t : Text} {o p : Occurrence}

/-- The cut text is `t`, and the stretch found in it is the same as `x`. -/
structure Cuts (rule : CaseRule) (x t : Text) (o : Occurrence) : Prop where
  whole : t = o.before ++ o.found ++ o.after
  same : rule.sameText o.found x = true

/-- No occurrence starts earlier. -/
structure Leftmost (rule : CaseRule) (x t : Text) (o : Occurrence) : Prop where
  cuts : Cuts rule x t o
  least : ∀ p, Cuts rule x t p → o.before.length ≤ p.before.length

theorem Cuts.found_length (h : Cuts rule x t o) : o.found.length = x.length :=
  CaseRule.sameText_length h.same

theorem Cuts.whole_before (h : Cuts rule x t o) : t = o.before ++ (o.found ++ o.after) := by
  rw [h.whole, List.append_assoc]

/-- An occurrence is known by the place where it starts. -/
theorem Cuts.eq_of_start (ho : Cuts rule x t o) (hp : Cuts rule x t p)
    (start : o.before.length = p.before.length) : o = p := by
  have whole := ho.whole_before.symm.trans hp.whole_before
  obtain ⟨before, rest⟩ := List.append_inj whole start
  obtain ⟨found, after⟩ := List.append_inj rest (ho.found_length.trans hp.found_length.symm)
  cases o
  cases p
  simp_all

theorem Leftmost.unique (ho : Leftmost rule x t o) (hp : Leftmost rule x t p) : o = p :=
  ho.cuts.eq_of_start hp.cuts (Nat.le_antisymm (ho.least p hp.cuts) (hp.least o ho.cuts))

theorem cuts_at_start {found after : Text} :
    Cuts rule x t ⟨[], found, after⟩ ↔ atStart? rule x t = some (found, after) := by
  rw [atStart?_eq_some_iff]
  exact ⟨fun h => ⟨by simpa using h.whole, h.same⟩, fun h => ⟨by simpa using h.1, h.2⟩⟩

theorem cuts_cons {c d : Char} {before found after : Text} :
    Cuts rule x (c :: t) ⟨d :: before, found, after⟩ ↔
      c = d ∧ Cuts rule x t ⟨before, found, after⟩ := by
  constructor
  · intro h
    obtain ⟨rfl, whole⟩ := List.cons.inj h.whole
    exact ⟨rfl, whole, h.same⟩
  · rintro ⟨rfl, h⟩
    exact ⟨congrArg (c :: ·) h.whole, h.same⟩

theorem first?_leftmost (h : first? rule x t = some o) : Leftmost rule x t o := by
  induction t generalizing o with
  | nil => simp [first?] at h
  | cons c t ih =>
    unfold first? at h
    split at h
    · next found after start =>
      cases h
      exact ⟨cuts_at_start.2 start, fun p _ => Nat.zero_le _⟩
    · next notHere =>
      obtain ⟨q, later, rfl⟩ := Option.map_eq_some_iff.1 h
      have inner := ih later
      refine ⟨cuts_cons.2 ⟨rfl, inner.cuts⟩, ?_⟩
      rintro ⟨before, found, after⟩ cuts
      cases before with
      | nil => simp [cuts_at_start.1 cuts] at notHere
      | cons d before => simpa using inner.least _ (cuts_cons.1 cuts).2

theorem first?_isSome (nonempty : x ≠ []) (cuts : Cuts rule x t o) :
    (first? rule x t).isSome := by
  obtain ⟨before, found, after⟩ := o
  induction t generalizing before with
  | nil =>
    have empty : found = [] := by have := cuts.whole; simp_all
    have length := cuts.found_length
    simp only [empty, List.length_nil] at length
    exact absurd (List.eq_nil_of_length_eq_zero length.symm) nonempty
  | cons c t ih =>
    unfold first?
    split
    · rfl
    · next notHere =>
      cases before with
      | nil => simp [cuts_at_start.1 cuts] at notHere
      | cons d before => simpa using ih before (cuts_cons.1 cuts).2

theorem first?_eq_some_iff (nonempty : x ≠ []) :
    first? rule x t = some o ↔ Leftmost rule x t o := by
  refine ⟨first?_leftmost, fun h => ?_⟩
  obtain ⟨found, hfound⟩ := Option.isSome_iff_exists.1 (first?_isSome nonempty h.cuts)
  rw [hfound, (first?_leftmost hfound).unique h]

theorem first?_eq_none_iff (nonempty : x ≠ []) :
    first? rule x t = none ↔ ∀ o, ¬ Cuts rule x t o := by
  constructor
  · intro none o cuts
    simpa [none] using first?_isSome nonempty cuts
  · intro nowhere
    cases found : first? rule x t with
    | none => rfl
    | some o => exact absurd (first?_leftmost found).cuts (nowhere o)

/-- No occurrence of `x` starts within `v` and ends within `v ++ w`. -/
def Clear (rule : CaseRule) (x v w : Text) : Prop :=
  ∀ p, Cuts rule x (v ++ w) p → v.length ≤ p.before.length

/-- An earlier occurrence would also end earlier, so it could not reach past the end. -/
theorem leftmost_iff_clear :
    Leftmost rule x t o ↔ Cuts rule x t o ∧ Clear rule x o.before o.found := by
  constructor
  · intro h
    refine ⟨h.cuts, fun p cuts => ?_⟩
    have longer : Cuts rule x t { p with after := p.after ++ o.after } :=
      ⟨by rw [h.cuts.whole, cuts.whole, List.append_assoc], cuts.same⟩
    exact h.least { p with after := p.after ++ o.after } longer
  · rintro ⟨cuts, clear⟩
    refine ⟨cuts, fun p hp => Nat.le_of_not_lt fun earlier => ?_⟩
    have upTo : p.before ++ p.found <+: o.before ++ o.found := by
      have hpt : p.before ++ p.found <+: t := ⟨p.after, hp.whole.symm⟩
      have hot : o.before ++ o.found <+: t := ⟨o.after, cuts.whole.symm⟩
      apply List.prefix_of_prefix_length_le hpt hot
      simp only [List.length_append, hp.found_length, cuts.found_length]
      omega
    obtain ⟨rest, whole⟩ := upTo
    have := clear ⟨p.before, p.found, rest⟩ ⟨whole.symm, hp.same⟩
    simp only at this
    omega

end Phrasebook.Occurrence
