import Phrasebook.Proofs.Template.Canonical
import Phrasebook.Proofs.Template.Lossless
import Phrasebook.Proofs.Template.Prefix
import Phrasebook.Service.Execute

/-! Dead routes. A pair of empty braces is the only template without parts, and so the only one that
matches no line but the empty one, which is never dispatched. Every other template that compiles
matches a line with text: its literals in a row, if it has any. -/
namespace Phrasebook

def Part.literal? : Part → Option Text
  | .literal text => some text
  | .placeholder _ => none

/-- The literals of some parts, in order. -/
def Part.literals (parts : List Part) : List Text := parts.filterMap Part.literal?

namespace Template

variable {source rest : Text} {r : Template} {rule : CaseRule} {parts : List Part} {x : Text}

theorem mem_literals_iff : x ∈ Part.literals parts ↔ .literal x ∈ parts := by
  simp only [Part.literals, List.mem_filterMap]
  constructor
  · rintro ⟨part, member, text⟩
    cases part with
    | literal y => cases text; exact member
    | placeholder name => cases text
  · intro member
    exact ⟨_, member, rfl⟩

/-- The literals in a row are what the template makes of no values. -/
theorem flatten_literals (parts : List Part) :
    (Part.literals parts).flatten = canonical parts [] := by
  induction parts with
  | nil => rfl
  | cons part parts ih =>
    cases part with
    | literal x => exact congrArg (x ++ ·) ih
    | placeholder name => exact ih

/-- Where no placeholder has text, every literal is found at once: there is nothing before it in
which it could occur earlier. -/
theorem cut_literals (rule : CaseRule) (parts : List Part) :
    Cut rule parts (Part.literals parts).flatten (parts.map (Part.filled [])) where
  count := List.length_map _
  whole := by rw [flatten_literals, canonical, List.flatMap_def]
  literal x w member := by
    rw [filled_spelled member]
    exact CaseRule.sameText_refl rule x
  clear name v x w inside := by
    have empty : v = [] := eq_fill_of_mem_zip (inside.subset List.mem_cons_self)
    rw [empty]
    exact fun _ _ => Nat.zero_le _

theorem captured_literals (parts : List Part) :
    captured parts (parts.map (Part.filled [])) = [] := by
  refine List.eq_nil_iff_forall_not_mem.2 fun ⟨name, v⟩ member => ?_
  obtain ⟨inside, named⟩ := mem_captured_iff.1 member
  exact named (eq_fill_of_mem_zip inside)

theorem match?_literals (regular : Part.Regular r.parts) (rule : CaseRule) :
    r.match? rule (Part.literals r.parts).flatten = some ⟨[], rule⟩ :=
  (match?_cut regular).2 ⟨_, cut_literals rule r.parts, by rw [captured_literals]⟩

theorem flatten_literals_ne_nil (regular : Part.Regular r.parts) (present : .literal x ∈ r.parts) :
    (Part.literals r.parts).flatten ≠ [] := by
  intro empty
  have none := List.flatten_eq_nil_iff.1 empty x (mem_literals_iff.2 present)
  exact regular.literals (none ▸ present)

/-- A line that captures something has text. -/
theorem ne_nil_of_captured (regular : Part.Regular r.parts) {line : Text} {c : Captures}
    {name v : Text} (matched : r.match? rule line = some c) (member : (name, v) ∈ c.values) :
    line ≠ [] := by
  rintro rfl
  obtain ⟨segments, cut, rfl⟩ := (match?_cut regular).1 matched
  obtain ⟨inside, named⟩ := mem_captured_iff.1 member
  exact named (List.flatten_eq_nil_iff.1 cut.whole v (List.of_mem_zip inside).2)

theorem exists_line (regular : Part.Regular r.parts) (rule : CaseRule) (parted : r.parts ≠ []) :
    ∃ line, line ≠ [] ∧ (r.match? rule line).isSome := by
  obtain ⟨part, member⟩ := List.exists_mem_of_ne_nil _ parted
  cases part with
  | literal x =>
    refine ⟨_, flatten_literals_ne_nil regular member, ?_⟩
    rw [match?_literals regular rule]
    rfl
  | placeholder name =>
    obtain ⟨line, c, raw, matched, captured⟩ :=
      exists_captured rule regular (Part.placeholder_mem_iff.1 member)
    refine ⟨line, ne_nil_of_captured regular matched captured, ?_⟩
    rw [matched]
    rfl

theorem match?_isSome_of_no_parts (empty : r.parts = []) (rule : CaseRule) (line : Text) :
    (r.match? rule line).isSome ↔ line = [] := by
  simp [match?, empty, matchParts, capture]

theorem spanned_eq_nil_iff {lead name : Text} :
    Part.spanned lead name = [] ↔ lead = [] ∧ name = [] := by
  by_cases hl : lead = [] <;> by_cases hn : name = [] <;> simp [Part.spanned, hl, hn]

theorem Span.lead_ne_nil {earlier spans : List Span} {s : Span}
    (sound : Span.firstFault? earlier spans = none) (member : s ∈ spans) (passed : s.boundary ≠ 0) :
    s.lead ≠ [] := by
  induction spans generalizing earlier with
  | nil => cases member
  | cons first spans ih =>
    rw [Span.firstFault?, Option.or_eq_none_iff] at sound
    rcases List.mem_cons.1 member with rfl | later
    · intro bare
      simp [Span.fault?, passed, bare] at sound
    · exact ih sound.2 later

theorem reading_sound {spans : List Span} (read : reading source spans rest = .ok r) :
    Span.firstFault? [] spans = none := by
  unfold reading at read
  split at read
  · cases read
  · next sound => exact sound

/-- A second span without a literal is one too many, so at most one span leaves no part. -/
theorem eq_braces_of_no_parts (compiled : compile source = .ok r) (empty : r.parts = []) :
    source = ['{', '}'] := by
  have nonempty : source ≠ [] := (compile_eq_ok_iff.1 compiled).1
  obtain ⟨spans, rest, h⟩ := spans_exist 0 source
  have read := (compile_of_spans nonempty h).symm.trans compiled
  rw [reading_eq_ok read, List.append_eq_nil_iff, List.flatMap_eq_nil_iff] at empty
  obtain ⟨bare, none⟩ := empty
  obtain ⟨rfl, _⟩ := spanned_eq_nil_iff.1 none
  cases spans with
  | nil =>
    cases h with
    | last => exact absurd rfl nonempty
  | cons first more =>
    cases more with
    | nil =>
      obtain ⟨lead, name⟩ := spanned_eq_nil_iff.1 (bare first List.mem_cons_self)
      cases h with
      | next _ _ _ later =>
        cases later with
        | last =>
          cases lead
          cases name
          rfl
    | cons second more =>
      have member : second ∈ first :: second :: more := by simp
      have passed := h.cons_boundary.2 second List.mem_cons_self
      exact absurd (spanned_eq_nil_iff.1 (bare second member)).1
        (Span.lead_ne_nil (reading_sound read) member passed)

theorem compile_braces : compile ['{', '}'] = .ok ⟨['{', '}'], []⟩ := rfl

/-- Every template that compiles matches some line with text, under either rule, except for a pair
of empty braces. That one has no parts and matches the empty line only, which no service dispatches.
A template with literals matches them in a row, and captures nothing then. -/
theorem dead_iff_braces :
    (∀ source r, compile source = .ok r → ∀ rule,
      ((∃ line, line ≠ [] ∧ (r.match? rule line).isSome) ↔ source ≠ ['{', '}']) ∧
      ((∃ x, .literal x ∈ r.parts) → (Part.literals r.parts).flatten ≠ [] ∧
        r.match? rule (Part.literals r.parts).flatten = some ⟨[], rule⟩)) ∧
    (∃ r, compile ['{', '}'] = .ok r ∧ r.parts = [] ∧
      ∀ rule line, (r.match? rule line).isSome ↔ line = []) ∧
    ∀ (ι σ ω : Type) [HostTypes ι] [DecidableEq ι] (s : Service ι σ ω) (depth : Nat),
      Service.executeWithin depth s (some []) = some ⟨s, .error (.emptyInput (some [])), []⟩ := by
  refine ⟨fun source r compiled rule => ⟨⟨?_, fun other => ?_⟩, ?_⟩,
    ⟨_, compile_braces, rfl, match?_isSome_of_no_parts rfl⟩, fun ι σ ω _ _ s depth => ?_⟩
  · rintro ⟨line, text, matched⟩ rfl
    cases compile_braces.symm.trans compiled
    exact text ((match?_isSome_of_no_parts rfl rule line).1 matched)
  · exact exists_line (compile_regular compiled) rule fun empty =>
      other (eq_braces_of_no_parts compiled empty)
  · rintro ⟨x, present⟩
    have regular := compile_regular compiled
    exact ⟨flatten_literals_ne_nil regular present, match?_literals regular rule⟩
  · cases depth <;> rfl

/-- Each literal occurs in the next one, and all the same the whole line is the literals. -/
theorem doubled_literals_matched :
    ∃ r, compile "{a}aa{b}aaa".toList = .ok r ∧ (∃ x, .literal x ∈ r.parts) ∧
      r.match? .ignoring "aaaaa".toList = some ⟨[], .ignoring⟩ ∧
      ∃ line, line ≠ [] ∧ (r.match? .ignoring line).isSome := by
  have compiled : compile "{a}aa{b}aaa".toList = .ok ⟨"{a}aa{b}aaa".toList,
      [.placeholder ['a'], .literal ['a', 'a'], .placeholder ['b'], .literal ['a', 'a', 'a']]⟩ := by
    rfl
  obtain ⟨alive, matched⟩ := dead_iff_braces.1 _ _ compiled .ignoring
  have present : ∃ x, Part.literal x ∈ [.placeholder ['a'], .literal ['a', 'a'],
      .placeholder ['b'], .literal ['a', 'a', 'a']] := ⟨['a', 'a'], by simp⟩
  exact ⟨_, compiled, present, (matched present).2, alive.2 (by decide)⟩

end Template
end Phrasebook
