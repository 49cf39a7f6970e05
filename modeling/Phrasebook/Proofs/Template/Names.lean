import Phrasebook.Proofs.Template.Regular

/-! The names of a template under a case rule. The check that a route makes finds a name that is
the same as an earlier one exactly if there is one, and reports the first of them. -/
namespace Phrasebook.Template

/-- No two names are the same under the rule. -/
def Distinct (rule : CaseRule) (names : List Text) : Prop :=
  names.Pairwise fun earlier later => rule.sameText earlier later = false

/-- The exact rule tells all different names apart. -/
theorem distinct_exact_iff {names : List Text} : Distinct .exact names ↔ names.Nodup := by
  have differ (a b : Text) : CaseRule.exact.sameText a b = false ↔ a ≠ b := by
    rw [← Bool.not_eq_true, CaseRule.sameText_exact_iff]
  simp only [Distinct, List.Nodup, differ]

/-- Names that are the same as a third one would be the same, so at most one of them is. -/
theorem Distinct.countP_le_one {rule : CaseRule} {names : List Text} (distinct : Distinct rule names)
    (name : Text) : names.countP (rule.sameText · name) ≤ 1 := by
  induction names with
  | nil => exact Nat.zero_le 1
  | cons key names ih =>
    obtain ⟨apart, distinct⟩ := List.pairwise_cons.1 distinct
    cases same : rule.sameText key name with
    | false => simpa [List.countP_cons, same] using ih distinct
    | true =>
      have others : names.countP (rule.sameText · name) = 0 := by
        refine List.countP_eq_zero.2 fun other member also => ?_
        have clash := CaseRule.sameText_trans same ((rule.sameText_symm name other).trans also)
        rw [apart other member] at clash
        cases clash
      simp [same, others]

section FirstRepeat

variable {rule : CaseRule} {seen before names : List Text} {name : Text}

theorem firstRepeat?_repeated (repeated : ∃ earlier ∈ seen, rule.sameText earlier name = true)
    (more : List Text) : firstRepeat? rule seen (name :: more) = some name := by
  rw [firstRepeat?, if_pos (List.any_eq_true.2 repeated)]

theorem firstRepeat?_new (new : ∀ earlier ∈ seen, rule.sameText earlier name = false)
    (more : List Text) :
    firstRepeat? rule seen (name :: more) = firstRepeat? rule (seen ++ [name]) more := by
  rw [firstRepeat?, if_neg (by simpa using new)]

theorem repeated_or_new (rule : CaseRule) (seen : List Text) (name : Text) :
    (∃ earlier ∈ seen, rule.sameText earlier name = true) ∨
      ∀ earlier ∈ seen, rule.sameText earlier name = false := by
  cases repeated : seen.any (rule.sameText · name) with
  | true => exact .inl (List.any_eq_true.1 repeated)
  | false => exact .inr (by simpa using repeated)

theorem firstRepeat?_eq_none_iff :
    firstRepeat? rule seen names = none ↔ Distinct rule names ∧
      ∀ earlier ∈ seen, ∀ later ∈ names, rule.sameText earlier later = false := by
  induction names generalizing seen with
  | nil => simp [firstRepeat?, Distinct]
  | cons name more ih =>
    rcases repeated_or_new rule seen name with repeated | new
    · rw [firstRepeat?_repeated repeated]
      obtain ⟨earlier, passed, same⟩ := repeated
      refine ⟨nofun, fun ⟨_, apart⟩ => ?_⟩
      cases same.symm.trans (apart earlier passed name List.mem_cons_self)
    · rw [firstRepeat?_new new, ih]
      constructor
      · rintro ⟨distinct, apart⟩
        refine ⟨List.pairwise_cons.2 ⟨?_, distinct⟩, fun earlier passed => ?_⟩
        · exact apart name (List.mem_append_right seen List.mem_cons_self)
        · exact List.forall_mem_cons.2
            ⟨new earlier passed, apart earlier (List.mem_append_left [name] passed)⟩
      · rintro ⟨distinct, apart⟩
        obtain ⟨here, later⟩ := List.pairwise_cons.1 distinct
        refine ⟨later, fun earlier passed => ?_⟩
        rcases List.mem_append.1 passed with old | last
        · exact (List.forall_mem_cons.1 (apart earlier old)).2
        · cases List.mem_singleton.1 last
          exact here

/-- Names without a repeat count as passed. -/
theorem firstRepeat?_append (none : firstRepeat? rule seen before = none) (more : List Text) :
    firstRepeat? rule seen (before ++ more) = firstRepeat? rule (seen ++ before) more := by
  induction before generalizing seen with
  | nil => rw [List.nil_append, List.append_nil]
  | cons name before ih =>
    rcases repeated_or_new rule seen name with repeated | new
    · rw [firstRepeat?_repeated repeated] at none
      cases none
    · rw [firstRepeat?_new new] at none
      rw [List.cons_append, firstRepeat?_new new, ih none, List.append_assoc]
      rfl

/-- The name is the first one that is the same as a name passed or as an earlier one. -/
theorem firstRepeat?_eq_some_iff :
    firstRepeat? rule seen names = some name ↔ ∃ before after, names = before ++ name :: after ∧
      firstRepeat? rule seen before = none ∧
      ∃ earlier ∈ seen ++ before, rule.sameText earlier name = true := by
  constructor
  · intro found
    induction names generalizing seen with
    | nil => cases found
    | cons first more ih =>
      rcases repeated_or_new rule seen first with repeated | new
      · rw [firstRepeat?_repeated repeated] at found
        cases found
        exact ⟨[], more, rfl, rfl, by rwa [List.append_nil]⟩
      · rw [firstRepeat?_new new] at found
        obtain ⟨before, after, rfl, none, repeated⟩ := ih found
        rw [List.append_assoc] at repeated
        exact ⟨first :: before, after, rfl, (firstRepeat?_new new before).trans none, repeated⟩
  · rintro ⟨before, after, rfl, none, repeated⟩
    rw [firstRepeat?_append none, firstRepeat?_repeated repeated]

end FirstRepeat

theorem checkNames_eq_ok_iff {rule : CaseRule} {t : Template} :
    t.checkNames rule = .ok () ↔ Distinct rule t.names := by
  have unseen : firstRepeat? rule [] t.names = none ↔ Distinct rule t.names := by
    simp [firstRepeat?_eq_none_iff]
  rw [checkNames, ← unseen]
  cases firstRepeat? rule [] t.names <;> simp

theorem checkNames_eq_error_iff {rule : CaseRule} {t : Template} {e : TemplateError} :
    t.checkNames rule = .error e ↔ ∃ before name after, t.names = before ++ name :: after ∧
      Distinct rule before ∧ (∃ earlier ∈ before, rule.sameText earlier name = true) ∧
      e = .repeated name := by
  have first (name : Text) : firstRepeat? rule [] t.names = some name ↔ ∃ before after,
      t.names = before ++ name :: after ∧ Distinct rule before ∧
        ∃ earlier ∈ before, rule.sameText earlier name = true := by
    simp [firstRepeat?_eq_some_iff, firstRepeat?_eq_none_iff]
  have reported : t.checkNames rule = .error e ↔
      ∃ name, firstRepeat? rule [] t.names = some name ∧ e = .repeated name := by
    rw [checkNames]
    cases firstRepeat? rule [] t.names <;> simp [eq_comm]
  rw [reported]
  constructor
  · rintro ⟨name, found, rfl⟩
    obtain ⟨before, after, whole, distinct, repeated⟩ := (first name).1 found
    exact ⟨before, name, after, whole, distinct, repeated, rfl⟩
  · rintro ⟨before, name, after, whole, distinct, repeated, rfl⟩
    exact ⟨name, (first name).2 ⟨before, after, whole, distinct, repeated⟩, rfl⟩

theorem compile_source {source : Text} {t : Template} (h : compile source = .ok t) :
    t.source = source := by
  obtain ⟨_, _, _, rfl⟩ := compile_eq_ok_iff.1 h
  rfl

end Phrasebook.Template
