import Phrasebook.Proofs.Template.Lookup
import Phrasebook.Proofs.Template.Printing

/-! More text after a line that matches. It goes to the placeholder at the end of the template, and
nothing else changes; without such a placeholder the longer line does not match. So no line is the
beginning of another if both match a template that ends with a literal. -/
namespace Phrasebook

namespace Occurrence

/-- Text after an occurrence leaves it the leftmost one. -/
theorem Leftmost.append {rule : CaseRule} {x t : Text} {o : Occurrence} (h : Leftmost rule x t o)
    (s : Text) : Leftmost rule x (t ++ s) { o with after := o.after ++ s } := by
  obtain ⟨cuts, clear⟩ := leftmost_iff_clear.1 h
  refine leftmost_iff_clear.2 ⟨⟨?_, cuts.same⟩, clear⟩
  rw [cuts.whole, List.append_assoc _ o.after]

end Occurrence

theorem Part.EndsNamed.cons {parts : List Part} (p : Part) (h : EndsNamed parts) :
    EndsNamed (p :: parts) := by
  obtain ⟨name, last⟩ := h
  exact ⟨name, by rw [List.getLast?_cons, last]; rfl⟩

namespace Template

open Occurrence

variable {rule : CaseRule} {parts : List Part} {line name s v : Text} {segments front : List Text}

/-- The values with more text under a name: behind the value that it has, else as a new value at
the end. -/
def extended (name s : Text) (values : List (Text × Text)) : List (Text × Text) :=
  if (values.map Prod.fst).contains name then
    values.map fun value => (value.1, if value.1 = name then value.2 ++ s else value.2)
  else values ++ [(name, s)]

theorem zip_concat (count : front.length = parts.length) (p : Part) (v : Text) :
    (parts ++ [p]).zip (front ++ [v]) = parts.zip front ++ [(p, v)] :=
  List.zip_append count.symm

/-- A placeholder at the end takes what is left of the line. -/
theorem cut_concat_placeholder_iff :
    Cut rule (parts ++ [.placeholder name]) line segments ↔
      ∃ front v start, segments = front ++ [v] ∧ line = start ++ v ∧
        Cut rule parts start front := by
  constructor
  · intro h
    rcases List.eq_nil_or_concat' segments with rfl | ⟨front, v, rfl⟩
    · simpa using h.count
    have count : front.length = parts.length := by simpa using h.count
    have pairs := zip_concat count (.placeholder name) v
    refine ⟨front, v, front.flatten, rfl, by simpa using h.whole.symm, count, rfl,
      fun x w member => ?_, fun other u x w inside => ?_⟩
    · exact h.literal x w (pairs ▸ List.mem_append_left _ member)
    · exact h.clear other u x w (pairs ▸ inside.trans (List.prefix_append _ _).isInfix)
  · rintro ⟨front, v, start, rfl, rfl, h⟩
    have pairs := zip_concat h.count (.placeholder name) v
    refine ⟨by simpa using h.count, by simp [h.whole], fun x w member => ?_,
      fun other u x w inside => ?_⟩
    · rw [pairs] at member
      rcases List.mem_append.1 member with inner | last
      · exact h.literal x w inner
      · simp at last
    · rw [pairs] at inside
      rcases List.infix_concat_iff.1 inside with last | inner
      · -- a literal is the second of the two, and a placeholder the last of all
        obtain ⟨before, whole⟩ := last
        have := congrArg List.getLast? whole
        simp at this
      · exact h.clear other u x w inner

theorem captured_concat (count : front.length = parts.length) :
    captured (parts ++ [.placeholder name]) (front ++ [v]) =
      captured parts front ++ if v = [] then [] else [(name, v)] := by
  rw [captured, zip_concat count, List.filterMap_append]
  congr 1
  by_cases empty : v = [] <;> simp [empty]

/-- By induction on the parts: each literal is found at the same place in the longer line, and no
part is left for the text after the last of them. -/
theorem Cut.eq_nil_of_append : ∀ {parts : List Part} {line s : Text} {segments others : List Text},
    parts.IsChain Part.Apart → ¬ Part.EndsNamed parts → Cut rule parts line segments →
      Cut rule parts (line ++ s) others → s = []
  | [], _, _, _, _, _, _, _, k => (List.append_eq_nil_iff.1 (cut_nil_iff.1 k).2).2
  | .literal _ :: _, _, _, _, _, apart, unnamed, h, k => by
    obtain ⟨w, more, _, _, rfl, same, inner⟩ := cut_literal_iff.1 h
    obtain ⟨u, _, _, _, whole, same', inner'⟩ := cut_literal_iff.1 k
    have length : w.length = u.length :=
      (CaseRule.sameText_length same).trans (CaseRule.sameText_length same').symm
    rw [List.append_assoc] at whole
    obtain ⟨rfl, rfl⟩ := List.append_inj whole length
    exact eq_nil_of_append apart.tail (fun named => unnamed (named.cons _)) inner inner'
  | [.placeholder name], _, _, _, _, _, unnamed, _, _ => absurd ⟨name, rfl⟩ unnamed
  | .placeholder _ :: .literal _ :: _, _, s, _, _, apart, unnamed, h, k => by
    obtain ⟨o, _, leftmost, _, inner⟩ := cut_placeholder_iff.1 h
    obtain ⟨p, _, leftmost', _, inner'⟩ := cut_placeholder_iff.1 k
    -- so what follows the literal is longer by the same text
    cases (leftmost.append s).unique leftmost'
    exact eq_nil_of_append apart.tail.tail (fun named => unnamed ((named.cons _).cons _)) inner
      inner'
  | .placeholder _ :: .placeholder _ :: _, _, _, _, _, apart, _, _, _ =>
    absurd apart Part.not_isChain_placeholders

theorem extended_concat {values : List (Text × Text)} (absent : name ∉ values.map Prod.fst) :
    extended name s (values ++ if v = [] then [] else [(name, v)]) =
      values ++ [(name, v ++ s)] := by
  unfold extended
  by_cases empty : v = []
  · subst empty
    have missing : (values.map Prod.fst).contains name = false := by simpa using absent
    rw [if_pos rfl, List.append_nil, missing]
    rfl
  · have others : (values.map fun value =>
        (value.1, if value.1 = name then value.2 ++ s else value.2)) = values := by
      refine (List.map_congr_left fun value member => ?_).trans values.map_id
      have other : value.1 ≠ name := fun same => absent (same ▸ List.mem_map_of_mem member)
      simp [other]
    rw [if_neg empty, if_pos (by simp), List.map_append, others]
    simp

section Match

variable {r : Template}

theorem match?_append_named (regular : Part.Regular r.parts)
    (last : r.parts.getLast? = some (.placeholder name)) {c : Captures}
    (matched : r.match? rule line = some c) (nonempty : s ≠ []) :
    r.match? rule (line ++ s) = some ⟨extended name s c.values, rule⟩ := by
  obtain ⟨init, parts⟩ := List.getLast?_eq_some_iff.1 last
  obtain ⟨_, cut, rfl⟩ := (match?_cut regular).1 matched
  have distinct := regular.distinct
  rw [parts] at cut distinct
  obtain ⟨front, v, start, rfl, rfl, inner⟩ := cut_concat_placeholder_iff.1 cut
  have longer : Cut rule (init ++ [.placeholder name]) (start ++ v ++ s) (front ++ [v ++ s]) :=
    cut_concat_placeholder_iff.2 ⟨front, v ++ s, start, rfl, by simp, inner⟩
  -- the values of the other placeholders stay as they are
  have absent : name ∉ (captured init front).map Prod.fst := by
    rw [Part.names_concat_placeholder] at distinct
    intro used
    exact (List.nodup_append.1 distinct).2.2 name ((captured_keys init front).subset used) name
      List.mem_cons_self rfl
  refine (match?_cut regular).2 ⟨front ++ [v ++ s], parts ▸ longer, ?_⟩
  rw [parts, captured_concat inner.count, captured_concat inner.count, extended_concat absent]
  simp [nonempty]

theorem match?_append_unnamed (regular : Part.Regular r.parts) (unnamed : ¬ Part.EndsNamed r.parts)
    {c c' : Captures} (matched : r.match? rule line = some c)
    (matched' : r.match? rule (line ++ s) = some c') : s = [] := by
  obtain ⟨_, cut, _⟩ := (match?_cut regular).1 matched
  obtain ⟨_, cut', _⟩ := (match?_cut regular).1 matched'
  exact cut.eq_nil_of_append regular.apart unnamed cut'

end Match

/-- Text after a line that matches goes to the placeholder at the end of the template. Where there
is none, no line that matches is the beginning of another. -/
theorem match?_append {source : Text} {r : Template} (compiled : compile source = .ok r)
    (rule : CaseRule) :
    (∀ line c s, r.match? rule line = some c → s ≠ [] →
      ((∃ c', r.match? rule (line ++ s) = some c') ↔ Part.EndsNamed r.parts) ∧
      ∀ name, r.parts.getLast? = some (.placeholder name) →
        r.match? rule (line ++ s) = some ⟨extended name s c.values, rule⟩) ∧
    (¬ Part.EndsNamed r.parts → ∀ line line' c c', r.match? rule line = some c →
      r.match? rule line' = some c' → line <+: line' → line = line') := by
  have regular := compile_regular compiled
  constructor
  · intro line c s matched nonempty
    refine ⟨⟨?_, ?_⟩, fun name last => match?_append_named regular last matched nonempty⟩
    · rintro ⟨c', matched'⟩
      by_contra unnamed
      exact nonempty (match?_append_unnamed regular unnamed matched matched')
    · rintro ⟨name, last⟩
      exact ⟨_, match?_append_named regular last matched nonempty⟩
  · rintro unnamed line _ c c' matched matched' ⟨s, rfl⟩
    rw [match?_append_unnamed regular unnamed matched matched', List.append_nil]

/-- The text after the line makes for another occurrence of the literal, but for no earlier one. -/
theorem doubled_letter_extended :
    ∃ r, compile "{a}kk{b}".toList = .ok r ∧
      r.match? .ignoring "x\u212Ak".toList = some ⟨[(['a'], ['x'])], .ignoring⟩ ∧
      "k".toList ≠ [] ∧
      r.match? .ignoring ("x\u212Ak".toList ++ "k".toList) =
        some ⟨[(['a'], ['x']), (['b'], ['k'])], .ignoring⟩ := by
  have compiled : compile "{a}kk{b}".toList =
      .ok ⟨"{a}kk{b}".toList, [.placeholder ['a'], .literal ['k', 'k'], .placeholder ['b']]⟩ := by
    rfl
  have matched : match?
      ⟨"{a}kk{b}".toList, [.placeholder ['a'], .literal ['k', 'k'], .placeholder ['b']]⟩ .ignoring
      "x\u212Ak".toList = some ⟨[(['a'], ['x'])], .ignoring⟩ := by rfl
  have nonempty : "k".toList ≠ [] := by decide
  have grown := ((match?_append compiled .ignoring).1 _ _ _ matched nonempty).2 ['b'] rfl
  exact ⟨_, compiled, matched, nonempty, grown⟩

end Template
end Phrasebook
