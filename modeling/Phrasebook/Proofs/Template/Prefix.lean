import Phrasebook.Proofs.Template.Cut
import Phrasebook.Proofs.Template.Reading

/-! Text without braces in front of a template. It joins the literal that the template starts with,
or becomes one. Errors stay what they are, further on by its bytes, and a line matches if what
follows the prefix does. -/
namespace Phrasebook

/-- The same error in a template that starts further on. -/
def TemplateError.shifted (bytes : Nat) : TemplateError → TemplateError
  | .adjacent position => .adjacent (bytes + position)
  | e => e

namespace Template

variable {p t rest x line : Text} {rule : CaseRule} {parts : List Part}

namespace Span

def shift (bytes : Nat) (s : Span) : Span := { s with boundary := s.boundary + bytes }

theorem fault?_shift {s : Span} {earlier earlier' : List Span} (bytes : Nat)
    (passed : s.boundary ≠ 0) (names : earlier'.map Span.name = earlier.map Span.name) :
    (s.shift bytes).fault? earlier' = (s.fault? earlier).map (·.shifted bytes) := by
  have again (others : List Span) :
      (∃ q ∈ others, q.name = s.name) ↔ s.name ∈ others.map Span.name := by
    simp
  unfold fault?
  simp only [shift, again, names]
  by_cases adjacent : s.lead = []
  · have position : s.boundary + bytes = bytes + s.boundary := Nat.add_comm ..
    simp [adjacent, passed, Span.position, TemplateError.shifted, position]
  · by_cases used : s.name ≠ [] ∧ s.name ∈ earlier.map Span.name
    · simp only [adjacent, and_false, if_false, if_pos used]
      rfl
    · simp only [adjacent, and_false, if_false, if_neg used]
      rfl

theorem firstFault?_shift {spans earlier earlier' : List Span} (bytes : Nat)
    (passed : ∀ s ∈ spans, s.boundary ≠ 0)
    (names : earlier'.map Span.name = earlier.map Span.name) :
    firstFault? earlier' (spans.map (shift bytes)) =
      (firstFault? earlier spans).map (·.shifted bytes) := by
  induction spans generalizing earlier earlier' with
  | nil => rfl
  | cons s spans ih =>
    obtain ⟨here, later⟩ := List.forall_mem_cons.1 passed
    have names' : (earlier' ++ [s.shift bytes]).map Span.name =
        (earlier ++ [s]).map Span.name := by
      simp [names, shift]
    rw [List.map_cons, firstFault?, firstFault?, fault?_shift bytes here names, ih later names']
    cases s.fault? earlier <;> rfl

end Span

theorem Spans.shift {boundary : Nat} {spans : List Span} (bytes : Nat)
    (h : Spans boundary t spans rest) :
    Spans (boundary + bytes) t (spans.map (Span.shift bytes)) rest := by
  induction h with
  | last unclosed => exact .last unclosed
  | @next boundary lead name back rest more closes unclosed absent _ ih =>
    refine .next closes unclosed absent ?_
    have further : boundary + Text.byteSize (lead ++ '{' :: name) + 1 + bytes =
        boundary + bytes + Text.byteSize (lead ++ '{' :: name) + 1 := by omega
    exact further ▸ ih

theorem Spans.boundary_ne_zero {boundary : Nat} {spans : List Span}
    (h : Spans boundary t spans rest) (passed : boundary ≠ 0) : ∀ s ∈ spans, s.boundary ≠ 0 := by
  induction h with
  | last => simp
  | next _ _ _ _ ih => exact List.forall_mem_cons.2 ⟨passed, ih (Nat.succ_ne_zero _)⟩

theorem Spans.cons_boundary {boundary : Nat} {first : Span} {more : List Span}
    (h : Spans boundary t (first :: more) rest) :
    first.boundary = boundary ∧ ∀ s ∈ more, s.boundary ≠ 0 := by
  cases h with
  | next _ _ _ later => exact ⟨rfl, later.boundary_ne_zero (Nat.succ_ne_zero _)⟩

theorem Plain.open_append (plain : Plain p) (unclosed : Open t) : Open (p ++ t) := by
  intro front back split closes
  rcases List.append_eq_append_iff.1 split with ⟨gap, rfl, inside⟩ | ⟨gap, rfl, inside⟩
  · exact unclosed gap back inside (plain.closes_append_iff.1 closes)
  · -- the brace that opens the span would stand in the prefix
    have opened : '{' ∈ front := by
      refine List.count_pos_iff.1 ?_
      have := closes.opening
      omega
    exact plain.opening (List.mem_append_left gap opened)

/-- The first span begins with the prefix, and the others start further on. -/
theorem Spans.prepend {boundary : Nat} {first : Span} {more : List Span} (plain : Plain p)
    (h : Spans boundary t (first :: more) rest) :
    Spans boundary (p ++ t)
      ({ first with lead := p ++ first.lead } :: more.map (Span.shift (Text.byteSize p))) rest := by
  cases h with
  | @next _ lead name back _ _ closes unclosed absent later =>
    have closes' : Closes (p ++ lead ++ '{' :: name) := by
      rw [List.append_assoc]
      exact plain.closes_append_iff.2 closes
    have unclosed' : Open (p ++ lead ++ '{' :: name) := by
      rw [List.append_assoc]
      exact plain.open_append unclosed
    have further : boundary + Text.byteSize (lead ++ '{' :: name) + 1 + Text.byteSize p =
        boundary + Text.byteSize (p ++ lead ++ '{' :: name) + 1 := by
      simp only [Text.byteSize_append]
      omega
    have whole : p ++ (lead ++ '{' :: name ++ '}' :: back) =
        p ++ lead ++ '{' :: name ++ '}' :: back := by simp
    exact whole ▸ .next closes' unclosed' absent (further ▸ later.shift (Text.byteSize p))

/-- The prefix joins the literal of the first span, or the rest if there is no span. -/
theorem compile_append (plain : Plain p) (nonempty : t ≠ []) :
    (∃ e, compile t = .error e ∧ compile (p ++ t) = .error (e.shifted (Text.byteSize p))) ∨
    ∃ lead tail, compile t = .ok ⟨t, Part.spanned lead [] ++ tail⟩ ∧
      compile (p ++ t) = .ok ⟨p ++ t, Part.spanned (p ++ lead) [] ++ tail⟩ := by
  have nonempty' : p ++ t ≠ [] := List.append_ne_nil_of_right_ne_nil p nonempty
  obtain ⟨spans, rest, h⟩ := spans_exist 0 t
  rw [compile_of_spans nonempty h]
  cases spans with
  | nil =>
    cases h with
    | last unclosed =>
      rw [compile_of_spans nonempty' (.last (plain.open_append unclosed))]
      exact .inr ⟨t, [], by simp [reading, Span.firstFault?, Part.spanned],
        by simp [reading, Span.firstFault?, Part.spanned]⟩
  | cons first more =>
    obtain ⟨_, lead, name⟩ := first
    obtain ⟨rfl, passed⟩ := h.cons_boundary
    rw [compile_of_spans nonempty' (h.prepend plain)]
    have fault : Span.firstFault? [⟨0, p ++ lead, name⟩] (more.map (Span.shift (Text.byteSize p))) =
        (Span.firstFault? [⟨0, lead, name⟩] more).map (·.shifted (Text.byteSize p)) :=
      Span.firstFault?_shift _ passed rfl
    have same : (more.map (Span.shift (Text.byteSize p))).flatMap Span.parts =
        more.flatMap Span.parts := List.flatMap_map ..
    simp only [reading, Span.firstFault?, Span.fault?, ne_eq, not_true_eq_false, false_and, if_false,
      List.not_mem_nil, exists_false, and_false, Option.none_or, List.nil_append, fault]
    cases Span.firstFault? [⟨0, lead, name⟩] more with
    | some e => exact .inl ⟨e, rfl, rfl⟩
    | none =>
      refine .inr ⟨lead, Part.spanned [] name ++ (more.flatMap Span.parts ++
        if rest = [] then [] else [.literal rest]), ?_, ?_⟩
      · simp [Span.parts, Part.spanned]
      · simp [Span.parts, Part.spanned, same]

/-- Without a placeholder before it, a literal matches where the line starts. -/
theorem matchParts_literal_first_iff {values : List (Text × Text)} (nonempty : x ≠ []) :
    matchParts rule none (.literal x :: parts) line = some values ↔
      ∃ w more, line = w ++ more ∧ rule.sameText w x = true ∧
        matchParts rule none parts more = some values := by
  simp only [matchParts_literal_iff, capture_none_iff, Occurrence.first?_eq_some_iff nonempty]
  constructor
  · rintro ⟨⟨_, w, more⟩, _, later, leftmost, ⟨rfl, rfl⟩, matched, rfl⟩
    exact ⟨w, more, leftmost.cuts.whole, leftmost.cuts.same, matched⟩
  · rintro ⟨w, more, rfl, same, matched⟩
    exact ⟨⟨[], w, more⟩, [], values, ⟨⟨rfl, same⟩, fun _ _ => Nat.zero_le _⟩, ⟨rfl, rfl⟩, matched,
      rfl⟩

/-- The same for a literal that may be empty and then is none. -/
theorem matchParts_lead_iff {values : List (Text × Text)} :
    matchParts rule none (Part.spanned x [] ++ parts) line = some values ↔
      ∃ w more, line = w ++ more ∧ rule.sameText w x = true ∧
        matchParts rule none parts more = some values := by
  by_cases empty : x = []
  · subst empty
    constructor
    · intro matched
      exact ⟨[], line, rfl, rfl, matched⟩
    · rintro ⟨w, more, rfl, same, matched⟩
      cases List.eq_nil_of_length_eq_zero (CaseRule.sameText_length same)
      exact matched
  · have one : Part.spanned x [] = [.literal x] := by simp [Part.spanned, empty]
    rw [one]
    exact matchParts_literal_first_iff empty

theorem matchParts_prefix_iff {values : List (Text × Text)} :
    matchParts rule none (Part.spanned (p ++ x) [] ++ parts) line = some values ↔
      ∃ q more, line = q ++ more ∧ rule.sameText q p = true ∧
        matchParts rule none (Part.spanned x [] ++ parts) more = some values := by
  simp only [matchParts_lead_iff, CaseRule.sameText_append_iff]
  constructor
  · rintro ⟨_, more, rfl, ⟨q, w, rfl, front, back⟩, matched⟩
    exact ⟨q, w ++ more, List.append_assoc .., front, w, more, rfl, back, matched⟩
  · rintro ⟨q, _, rfl, front, w, more, rfl, back, matched⟩
    exact ⟨q ++ w, more, (List.append_assoc ..).symm, ⟨q, w, rfl, front, back⟩, matched⟩

/-- A prefix without braces changes a template in no other way than by standing before it: the
errors are the same, as far on as the prefix is long, and so are the names; and a line matches
exactly if it starts with text that is the same as the prefix and its rest matches, with the same
captures. -/
theorem compile_prefixed (plain : Plain p) (nonempty : t ≠ []) :
    (∀ e, compile t = .error e → compile (p ++ t) = .error (e.shifted (Text.byteSize p))) ∧
    (∀ r, compile t = .ok r → ∃ r', compile (p ++ t) = .ok r' ∧ r'.names = r.names ∧
      ∀ rule line c, r'.match? rule line = some c ↔
        ∃ q more, line = q ++ more ∧ rule.sameText q p = true ∧ r.match? rule more = some c) := by
  rcases compile_append plain nonempty with ⟨e, failed, failed'⟩ | ⟨lead, tail, compiled, compiled'⟩
  · refine ⟨fun e' h => ?_, fun r h => ?_⟩
    · cases failed.symm.trans h
      exact failed'
    · cases failed.symm.trans h
  · refine ⟨fun e h => ?_, fun r h => ?_⟩
    · cases compiled.symm.trans h
    · cases compiled.symm.trans h
      refine ⟨_, compiled', by simp [names], fun rule line c => ?_⟩
      simp only [match?, Option.map_eq_some_iff, matchParts_prefix_iff]
      constructor
      · rintro ⟨values, ⟨q, more, rfl, same, matched⟩, rfl⟩
        exact ⟨q, more, rfl, same, values, matched, rfl⟩
      · rintro ⟨q, more, rfl, same, values, matched, rfl⟩
        exact ⟨values, ⟨q, more, rfl, same, matched⟩, rfl⟩

/-- The prefix takes one byte in the template and three in the line. -/
theorem kelvin_prefix_matches :
    Plain "k".toList ∧ "{}{a}".toList ≠ [] ∧ "{a}:".toList ≠ [] ∧
    compile ("k".toList ++ "{}{a}".toList) = .error (.adjacent 3) ∧
    ∃ r', compile ("k".toList ++ "{a}:".toList) = .ok r' ∧
      r'.match? .ignoring "\u212Ax:".toList = some ⟨[(['a'], ['x'])], .ignoring⟩ := by
  have plain : Plain "k".toList := ⟨by decide, by decide⟩
  have bad : "{}{a}".toList ≠ [] := by decide
  have good : "{a}:".toList ≠ [] := by decide
  obtain ⟨r', compiled, _, matches'⟩ := (compile_prefixed plain good).2
    ⟨"{a}:".toList, [.placeholder ['a'], .literal [':']]⟩ rfl
  refine ⟨plain, bad, good, (compile_prefixed plain bad).1 (.adjacent 2) rfl, r', compiled, ?_⟩
  exact (matches' _ _ _).2 ⟨['\u212A'], ['x', ':'], rfl, by decide, by decide⟩

end Template
end Phrasebook
