import Phrasebook.Proofs.Input.Encoding
import Phrasebook.Proofs.Template.Search

/-! Where a search from a byte offset on ends. Whichever way it goes, by the bytes of the text
searched for or by trying one character after another, it finds the first run of characters that is
the same as that text. The two ways only part where a character is the same as a different one. -/
namespace Phrasebook

namespace CaseRule

/-- Where no character is the same as a different one, texts that are the same are equal. -/
theorem eq_of_sameText {rule : CaseRule} {t u : Text}
    (apart : ∀ a ∈ u, ∀ c ∈ t, rule.same c a = true → c = a) (same : rule.sameText t u = true) :
    t = u := by
  induction t generalizing u with
  | nil => exact (List.eq_nil_of_length_eq_zero (sameText_length same).symm).symm
  | cons c t ih =>
    cases u with
    | nil => exact nomatch same
    | cons a u =>
      obtain ⟨first, others⟩ := Bool.and_eq_true_iff.1 same
      have equal : c = a := apart a List.mem_cons_self c List.mem_cons_self first
      have apart' : ∀ a ∈ u, ∀ c ∈ t, rule.same c a = true → c = a := by
        intro a' inU c' inT
        exact apart a' (List.mem_cons_of_mem a inU) c' (List.mem_cons_of_mem c inT)
      rw [equal, ih apart' others]

end CaseRule

namespace Occurrence

variable {rule : CaseRule} {x t : Text} {o p : Occurrence}

/-- What starts earlier by characters starts earlier by bytes. -/
theorem Cuts.byteSize_before_le (ho : Cuts rule x t o) (hp : Cuts rule x t p)
    (le : o.before.length ≤ p.before.length) :
    Text.byteSize o.before ≤ Text.byteSize p.before := by
  have starts : o.before <+: t := ⟨_, ho.whole_before.symm⟩
  have starts' : p.before <+: t := ⟨_, hp.whole_before.symm⟩
  obtain ⟨gap, between⟩ := List.prefix_of_prefix_length_le starts starts' le
  rw [← between, Text.byteSize_append]
  omega

/-- Where a text is found as it is, it is found under every rule. -/
theorem cuts_exact_iff (apart : ∀ a ∈ x, ∀ c ∈ t, rule.same c a = true → c = a) :
    Cuts .exact x t o ↔ Cuts rule x t o := by
  constructor
  · intro h
    have same : o.found = x := CaseRule.sameText_exact_iff.1 h.same
    exact ⟨h.whole, same ▸ CaseRule.sameText_refl rule o.found⟩
  · intro h
    have apart' : ∀ a ∈ x, ∀ c ∈ o.found, rule.same c a = true → c = a := by
      intro a inX c inFound
      apply apart a inX c
      rw [h.whole]
      exact List.mem_append_left _ (List.mem_append_right _ inFound)
    exact ⟨h.whole, CaseRule.sameText_exact_iff.2 (CaseRule.eq_of_sameText apart' h.same)⟩

theorem first?_exact_eq (nonempty : x ≠ [])
    (apart : ∀ a ∈ x, ∀ c ∈ t, rule.same c a = true → c = a) :
    first? .exact x t = first? rule x t := by
  apply Option.ext
  intro o
  rw [first?_eq_some_iff nonempty, first?_eq_some_iff nonempty]
  constructor
  · rintro ⟨cuts, least⟩
    exact ⟨(cuts_exact_iff apart).1 cuts, fun p other => least p ((cuts_exact_iff apart).2 other)⟩
  · rintro ⟨cuts, least⟩
    exact ⟨(cuts_exact_iff apart).2 cuts, fun p other => least p ((cuts_exact_iff apart).1 other)⟩

end Occurrence

namespace Text

open Occurrence Input

/-- Between the byte offsets the line is a run of characters that is the same as `x`. -/
def RunAt (rule : CaseRule) (line x : Text) (start stop : Nat) : Prop :=
  ∃ o, Cuts rule x line o ∧ o.bytes = (start, stop)

/-- Of the runs that start at the offset or behind it, none starts earlier. -/
structure FirstRun (rule : CaseRule) (line x : Text) (offset start stop : Nat) : Prop where
  run : RunAt rule line x start stop
  behind : offset ≤ start
  least : ∀ start' stop', RunAt rule line x start' stop' → offset ≤ start' → start ≤ start'

/-- The first place at which the bytes of a text stand among other bytes. -/
structure FirstBytes (word bytes : Bytes) (place : Nat) : Prop where
  stands : word <+: bytes.drop place
  least : ∀ place', word <+: bytes.drop place' → place ≤ place'

variable {rule : CaseRule} {front rest line x t : Text} {offset start stop start' stop' : Nat}

theorem RunAt.stop_unique (h : RunAt rule line x start stop) (h' : RunAt rule line x start stop') :
    stop = stop' := by
  obtain ⟨o, cuts, ends⟩ := h
  obtain ⟨p, cuts', ends'⟩ := h'
  obtain ⟨begins, rfl⟩ := Prod.mk.inj ends
  obtain ⟨begins', rfl⟩ := Prod.mk.inj ends'
  have whole := cuts.whole_before.symm.trans cuts'.whole_before
  have before : o.before = p.before := eq_of_byteSize_eq whole (begins.trans begins'.symm)
  rw [cuts.eq_of_start cuts' (congrArg List.length before)]

/-- There is only one first run. -/
theorem FirstRun.unique (h : FirstRun rule line x offset start stop)
    (h' : FirstRun rule line x offset start' stop') : start = start' ∧ stop = stop' := by
  have same : start = start' := by
    apply Nat.le_antisymm
    · exact h.least start' stop' h'.run h'.behind
    · exact h'.least start stop h.run h.behind
  subst same
  exact ⟨rfl, h.run.stop_unique h'.run⟩

/-- A run behind a front of the line is a run in the rest of the line. -/
theorem runAt_append_iff : RunAt rule (front ++ rest) x start stop ∧ byteSize front ≤ start ↔
    ∃ i j, RunAt rule rest x i j ∧ start = byteSize front + i ∧ stop = byteSize front + j := by
  constructor
  · rintro ⟨⟨o, cuts, ends⟩, behind⟩
    obtain ⟨rfl, rfl⟩ := Prod.mk.inj ends
    have whole := cuts.whole_before
    obtain ⟨gap, before⟩ := prefix_of_byteSize_le whole behind
    have cut : rest = gap ++ o.found ++ o.after := by
      rw [before, List.append_assoc] at whole
      rw [List.append_cancel_left whole, List.append_assoc]
    refine ⟨_, _, ⟨⟨gap, o.found, o.after⟩, ⟨cut, cuts.same⟩, rfl⟩, ?_, ?_⟩
    · rw [before, byteSize_append]
    · rw [before, byteSize_append]
      exact Nat.add_assoc _ _ _
  · rintro ⟨i, j, ⟨o, cuts, ends⟩, rfl, rfl⟩
    obtain ⟨rfl, rfl⟩ := Prod.mk.inj ends
    have cut : front ++ rest = (front ++ o.before) ++ o.found ++ o.after := by
      rw [cuts.whole]
      simp only [List.append_assoc]
    refine ⟨⟨⟨front ++ o.before, o.found, o.after⟩, ⟨cut, cuts.same⟩, ?_⟩, Nat.le_add_right _ _⟩
    simp only [bytes, byteSize_append, Nat.add_assoc]

theorem firstRun_append_iff : FirstRun rule (front ++ rest) x (byteSize front) start stop ↔
    ∃ i j, FirstRun rule rest x 0 i j ∧ start = byteSize front + i ∧ stop = byteSize front + j := by
  constructor
  · rintro ⟨run, behind, least⟩
    obtain ⟨i, j, inRest, rfl, rfl⟩ := runAt_append_iff.1 ⟨run, behind⟩
    refine ⟨i, j, ⟨inRest, Nat.zero_le i, ?_⟩, rfl, rfl⟩
    intro i' j' other _
    obtain ⟨shifted, behind'⟩ := runAt_append_iff.2 ⟨i', j', other, rfl, rfl⟩
    exact Nat.le_of_add_le_add_left (least _ _ shifted behind')
  · rintro ⟨i, j, ⟨run, _, least⟩, rfl, rfl⟩
    obtain ⟨shifted, behind⟩ := runAt_append_iff.2 ⟨i, j, run, rfl, rfl⟩
    refine ⟨shifted, behind, ?_⟩
    intro start' stop' other behind'
    obtain ⟨i', j', inRest, rfl, rfl⟩ := runAt_append_iff.1 ⟨other, behind'⟩
    exact Nat.add_le_add_left (least i' j' inRest (Nat.zero_le i')) _

theorem firstRun_of_leftmost {o : Occurrence} (h : Leftmost rule x t o) :
    FirstRun rule t x 0 o.bytes.1 o.bytes.2 := by
  refine ⟨⟨o, h.cuts, rfl⟩, Nat.zero_le _, ?_⟩
  rintro _ _ ⟨p, cuts, ends⟩ _
  cases ends
  exact h.cuts.byteSize_before_le cuts (h.least p cuts)

/-- What a search gives is the first run, and it gives none only where there is none. -/
theorem searchFrom_cases (rule : CaseRule) (nonempty : x ≠ []) (boundary : line.Boundary offset) :
    (∃ start stop, (searchFrom rule line x offset).result = .ok (some (start, stop)) ∧
      FirstRun rule line x offset start stop) ∨
    ((searchFrom rule line x offset).result = .ok none ∧
      ∀ start stop, offset ≤ start → ¬ RunAt rule line x start stop) := by
  obtain ⟨front, rest, rfl, rfl⟩ := boundary
  have searched := (searchFrom_safe rule nonempty (rfl : front ++ rest = front ++ rest)).result
  cases found : first? rule x rest with
  | some o =>
    rw [found] at searched
    have first := firstRun_of_leftmost (first?_leftmost found)
    exact .inl ⟨_, _, searched, firstRun_append_iff.2 ⟨_, _, first, rfl, rfl⟩⟩
  | none =>
    rw [found] at searched
    refine .inr ⟨searched, fun start stop behind run => ?_⟩
    obtain ⟨i, j, ⟨o, cuts, _⟩, _⟩ := runAt_append_iff.1 ⟨run, behind⟩
    exact (first?_eq_none_iff nonempty).1 found o cuts

theorem searchFrom_eq_some_iff (nonempty : x ≠ []) (boundary : line.Boundary offset) :
    (searchFrom rule line x offset).result = .ok (some (start, stop)) ↔
      FirstRun rule line x offset start stop := by
  rcases searchFrom_cases rule nonempty boundary with ⟨s, e, found, first⟩ | ⟨found, nowhere⟩
  · constructor
    · intro result
      cases found.symm.trans result
      exact first
    · intro other
      obtain ⟨rfl, rfl⟩ := first.unique other
      exact found
  · constructor
    · intro result
      cases found.symm.trans result
    · intro first
      exact absurd first.run (nowhere start stop first.behind)

theorem searchFrom_eq_none_iff (nonempty : x ≠ []) (boundary : line.Boundary offset) :
    (searchFrom rule line x offset).result = .ok none ↔
      ∀ start stop, offset ≤ start → ¬ RunAt rule line x start stop := by
  rcases searchFrom_cases rule nonempty boundary with ⟨s, e, found, first⟩ | ⟨found, nowhere⟩
  · constructor
    · intro result
      cases found.symm.trans result
    · intro nowhere
      exact absurd first.run (nowhere s e first.behind)
  · exact ⟨fun _ => nowhere, fun _ => found⟩

/-- A run of equal characters is a stretch of equal bytes. -/
theorem runAt_exact_iff (nonempty : x ≠ []) : RunAt .exact t x start stop ↔
    encode x <+: (encode t).drop start ∧ stop = start + byteSize x := by
  rw [encode_prefix_drop_iff nonempty]
  constructor
  · rintro ⟨o, cuts, ends⟩
    cases ends
    have same : o.found = x := CaseRule.sameText_exact_iff.1 cuts.same
    refine ⟨⟨o.before, o.found ++ o.after, cuts.whole_before, rfl, ?_⟩, by rw [same]⟩
    rw [same]
    exact List.prefix_append x o.after
  · rintro ⟨⟨before, _, rfl, rfl, after, rfl⟩, rfl⟩
    refine ⟨⟨before, x, after⟩, ⟨?_, CaseRule.sameText_refl _ x⟩, rfl⟩
    rw [List.append_assoc]

theorem firstBytes_iff (nonempty : x ≠ []) : FirstBytes (encode x) (encode t) start ↔
    FirstRun .exact t x 0 start (start + byteSize x) := by
  constructor
  · rintro ⟨stands, least⟩
    refine ⟨(runAt_exact_iff nonempty).2 ⟨stands, rfl⟩, Nat.zero_le start, ?_⟩
    intro start' stop' other _
    exact least start' ((runAt_exact_iff nonempty).1 other).1
  · rintro ⟨run, _, least⟩
    refine ⟨((runAt_exact_iff nonempty).1 run).1, ?_⟩
    intro start' stands
    exact least _ _ ((runAt_exact_iff nonempty).2 ⟨stands, rfl⟩) (Nat.zero_le start')

/-- The exact search goes by bytes: it finds the first place of the bytes of `x` among those of the
rest of the line, and takes as many. -/
theorem searchFrom_exact_iff (nonempty : x ≠ [])
    (read : Slice.read? ⟨line, offset, byteSize line⟩ = some rest) :
    (searchFrom .exact line x offset).result = .ok (some (start, stop)) ↔
      ∃ place, FirstBytes (encode x) (encode rest) place ∧
        start = offset + place ∧ stop = offset + place + byteSize x := by
  obtain ⟨front, rfl, rfl⟩ := Slice.exists_front_of_read? read
  rw [searchFrom_eq_some_iff nonempty ⟨front, rest, rfl, rfl⟩, firstRun_append_iff]
  constructor
  · rintro ⟨i, j, first, rfl, rfl⟩
    obtain ⟨_, rfl⟩ := (runAt_exact_iff nonempty).1 first.run
    exact ⟨i, (firstBytes_iff nonempty).2 first, rfl, (Nat.add_assoc _ _ _).symm⟩
  · rintro ⟨place, first, rfl, rfl⟩
    exact ⟨place, _, (firstBytes_iff nonempty).1 first, rfl, Nat.add_assoc _ _ _⟩

/-- From every boundary of the line on, and under both rules, the search gives the first run that is
the same as `x`, or none where there is none. That is the occurrence matching uses. The exact search
goes by bytes, the other by characters; they agree where no character is the same as a different
one. -/
theorem searchFrom_firstRun (rule : CaseRule) (nonempty : x ≠ [])
    (boundary : line.Boundary offset) :
    (∀ start stop, (searchFrom rule line x offset).result = .ok (some (start, stop)) ↔
      FirstRun rule line x offset start stop) ∧
    ((searchFrom rule line x offset).result = .ok none ↔
      ∀ start stop, offset ≤ start → ¬ RunAt rule line x start stop) ∧
    (∀ rest, Slice.read? ⟨line, offset, byteSize line⟩ = some rest →
      (searchFrom rule line x offset).result =
        .ok ((first? rule x rest).map fun o => (offset + o.bytes.1, offset + o.bytes.2)) ∧
      ∀ start stop, (searchFrom .exact line x offset).result = .ok (some (start, stop)) ↔
        ∃ place, FirstBytes (encode x) (encode rest) place ∧
          start = offset + place ∧ stop = offset + place + byteSize x) ∧
    ((∀ a ∈ x, ∀ c ∈ line, CaseRule.ignoring.same c a = true → c = a) →
      (searchFrom .exact line x offset).result = (searchFrom .ignoring line x offset).result) := by
  refine ⟨fun start stop => searchFrom_eq_some_iff nonempty boundary,
    searchFrom_eq_none_iff nonempty boundary, ?_, ?_⟩
  · intro rest read
    refine ⟨?_, fun start stop => searchFrom_exact_iff nonempty read⟩
    obtain ⟨front, whole, rfl⟩ := Slice.exists_front_of_read? read
    exact (searchFrom_safe rule nonempty whole).result
  · intro apart
    obtain ⟨front, rest, whole, rfl⟩ := boundary
    have apart' : ∀ a ∈ x, ∀ c ∈ rest, CaseRule.ignoring.same c a = true → c = a := by
      intro a inX c inRest
      exact apart a inX c (whole ▸ List.mem_append_right front inRest)
    rw [(searchFrom_safe .exact nonempty whole).result,
      (searchFrom_safe .ignoring nonempty whole).result, first?_exact_eq nonempty apart']

/-- Behind the first letter stand its Kelvin sign, its upper case and the letter again. Without any
such character both searches agree. -/
theorem kelvin_sign_first_run :
    FirstRun .ignoring "k\u212aKk".toList ['k'] 1 1 4 ∧
      FirstRun .exact "k\u212aKk".toList ['k'] 1 5 6 ∧
      FirstBytes (encode ['k']) (encode "\u212aKk".toList) 4 ∧
      (searchFrom .exact "abaab".toList "ab".toList 1).result =
        (searchFrom .ignoring "abaab".toList "ab".toList 1).result := by
  have nonempty : ['k'] ≠ [] := by decide
  have boundary : Boundary "k\u212aKk".toList 1 := ⟨['k'], "\u212aKk".toList, by decide, by decide⟩
  have boundary' : Boundary "abaab".toList 1 := ⟨['a'], "baab".toList, by decide, by decide⟩
  have each : ("ab".toList.all fun a =>
      "abaab".toList.all fun c => !CaseRule.ignoring.same c a || c == a) = true := by decide
  have apart : ∀ a ∈ "ab".toList, ∀ c ∈ "abaab".toList,
      CaseRule.ignoring.same c a = true → c = a := by
    intro a inX c inLine same
    have equal := List.all_eq_true.1 (List.all_eq_true.1 each a inX) c inLine
    simpa [same] using equal
  refine ⟨((searchFrom_firstRun .ignoring nonempty boundary).1 1 4).1 rfl,
    ((searchFrom_firstRun .exact nonempty boundary).1 5 6).1 rfl, ?_,
    (searchFrom_firstRun .exact (by decide) boundary').2.2.2 apart⟩
  have read : Slice.read? ⟨"k\u212aKk".toList, 1, 6⟩ = some "\u212aKk".toList := by decide
  have byBytes := ((searchFrom_firstRun .exact nonempty boundary).2.2.1 _ read).2 5 6
  obtain ⟨place, first, start, _⟩ := byBytes.1 rfl
  have here : place = 4 := by omega
  exact here ▸ first

end Text
end Phrasebook
