import Mathlib.Data.List.Zip
import Phrasebook.Proofs.Template.Sameness

/-! The canonical line of a match that ignores case: the template with the captured values filled
in, so its literals are spelled as the template has them. It matches by either rule, with the same
values, and is as long as the line was. -/
namespace Phrasebook

/-- What stands for a part in a line: its own text, or the value of its name. -/
def Part.filled (values : List (Text × Text)) : Part → Text
  | .literal x => x
  | .placeholder name => (values.lookup name).getD []

namespace Template

variable {rule : CaseRule} {parts : List Part} {line : Text} {segments : List Text}

/-- The parts with the values filled in. A name without a value stands for no text. -/
def canonical (parts : List Part) (values : List (Text × Text)) : Text :=
  parts.flatMap (Part.filled values)

theorem lookup_captured_of_notMem {name : Text} (absent : name ∉ Part.names parts) :
    (captured parts segments).lookup name = none := by
  refine List.lookup_eq_none_iff.2 fun value member => ?_
  have key := (captured_keys parts segments).subset (List.mem_map_of_mem member)
  simpa using fun same : name = value.1 => absent (same ▸ key)

/-- The names are distinct, so each one leads to its own segment. -/
theorem lookup_captured (distinct : (Part.names parts).Nodup) {name v : Text}
    (member : (.placeholder name, v) ∈ parts.zip segments) :
    ((captured parts segments).lookup name).getD [] = v := by
  induction parts generalizing segments with
  | nil => simp at member
  | cons part parts ih =>
    cases segments with
    | nil => simp at member
    | cons w segments =>
      rw [List.zip_cons_cons] at member
      cases part with
      | literal x =>
        rcases List.mem_cons.1 member with here | later
        · cases here
        · exact ih distinct later
      | placeholder other =>
        obtain ⟨absent, distinct⟩ := List.nodup_cons.1 distinct
        rw [captured_placeholder]
        rcases List.mem_cons.1 member with here | later
        · cases here
          by_cases empty : v = []
          · simp [empty, lookup_captured_of_notMem absent]
          · simp [empty]
        · have named := Part.placeholder_mem_iff.1 (List.of_mem_zip later).1
          have differ : (name == other) = false := beq_false_of_ne fun same => absent (same ▸ named)
          by_cases empty : w = []
          · simpa [empty] using ih distinct later
          · simpa [empty, List.lookup_cons, differ] using ih distinct later

/-- Only the segments of placeholders are captured. -/
theorem captured_map {fill : Part → Text} (count : segments.length = parts.length)
    (kept : ∀ name v, (.placeholder name, v) ∈ parts.zip segments → fill (.placeholder name) = v) :
    captured parts (parts.map fill) = captured parts segments := by
  induction parts generalizing segments with
  | nil => rfl
  | cons part parts ih =>
    cases segments with
    | nil => cases count
    | cons v segments =>
      have later := ih (Nat.succ.inj count) fun name w member =>
        kept name w (List.mem_cons_of_mem _ member)
      cases part with
      | literal x => exact later
      | placeholder name =>
        rw [List.map_cons, captured_placeholder, captured_placeholder, later,
          kept name v List.mem_cons_self]

/-- A cut whose literals are spelled as in the template is exact. Less is the same under the exact
rule, so nothing occurs earlier under it. -/
theorem Cut.exact (h : Cut rule parts line segments)
    (spelled : ∀ x w, (.literal x, w) ∈ parts.zip segments → w = x) :
    Cut .exact parts line segments := by
  refine ⟨h.count, h.whole, fun x w member => ?_, fun name v x w inside p cuts => ?_⟩
  · exact CaseRule.sameText_exact_iff.2 (spelled x w member)
  · refine h.clear name v x w inside p ⟨cuts.whole, ?_⟩
    rw [CaseRule.sameText_exact_iff.1 cuts.same]
    exact CaseRule.sameText_refl rule x

theorem Cut.filled (h : Cut rule parts line segments) (distinct : (Part.names parts).Nodup) :
    rule.SameTexts segments (parts.map (Part.filled (captured parts segments))) := by
  refine List.forall₂_map_right_iff.2 (List.forall₂_iff_zip.2 ⟨h.count, fun {w part} member => ?_⟩)
  have member : (part, w) ∈ parts.zip segments := by
    rw [← List.zip_swap]
    exact List.mem_map.2 ⟨(w, part), member, rfl⟩
  cases part with
  | literal x => exact h.literal x w member
  | placeholder name =>
    rw [Part.filled, lookup_captured distinct member]
    exact CaseRule.sameText_refl rule w

theorem eq_fill_of_mem_zip {fill : Part → Text} {part : Part} {w : Text}
    (member : (part, w) ∈ parts.zip (parts.map fill)) : w = fill part := by
  have pairs := List.zip_map' (f := id) (g := fill) (l := parts)
  rw [List.map_id] at pairs
  rw [pairs] at member
  obtain ⟨_, _, same⟩ := List.mem_map.1 member
  cases same
  rfl

/-- Every literal of the canonical line is the template's own. -/
theorem filled_spelled {values : List (Text × Text)} {x w : Text}
    (member : (.literal x, w) ∈ parts.zip (parts.map (Part.filled values))) : w = x :=
  eq_fill_of_mem_zip member

/-- The line that a template makes of what it captured matches it again, and now exactly. -/
theorem match?_canonical {source : Text} {r : Template} (compiled : compile source = .ok r)
    {c : Captures} (matched : r.match? .ignoring line = some c) :
    r.match? .exact (canonical r.parts c.values) = some ⟨c.values, .exact⟩ ∧
    r.match? .ignoring (canonical r.parts c.values) = some c ∧
    (canonical r.parts c.values).length = line.length := by
  have regular := compile_regular compiled
  obtain ⟨segments, cut, rfl⟩ := (match?_cut regular).1 matched
  have same := cut.filled regular.distinct
  have alike : List.Forall₂ (Part.Alike .ignoring) r.parts r.parts :=
    List.forall₂_same.2 fun part _ => Part.Alike.refl .ignoring part
  have again : Cut .ignoring r.parts (canonical r.parts (captured r.parts segments)) _ :=
    Cut.congr regular.apart cut alike same
  have values : captured r.parts (r.parts.map (Part.filled (captured r.parts segments))) =
      captured r.parts segments :=
    captured_map cut.count fun _ _ member => lookup_captured regular.distinct member
  have whole : CaseRule.ignoring.sameText line (canonical r.parts (captured r.parts segments)) =
      true := CaseRule.sameText_flatten_iff.2 ⟨segments, cut.whole.symm, same⟩
  refine ⟨(match?_cut regular).2 ⟨_, again.exact fun _ _ => filled_spelled, ?_⟩,
    (match?_cut regular).2 ⟨_, again, ?_⟩, (CaseRule.sameText_length whole).symm⟩
  · rw [values]
  · rw [values]

/-- The Kelvin sign that stands for the literal gives way to the letter, and the one that was
captured stays. -/
theorem kelvin_line_respelled :
    ∃ r, compile "{a}k{b}".toList = .ok r ∧
      r.match? .ignoring "\u212Ay\u212A".toList =
        some ⟨[(['b'], ['y', '\u212A'])], .ignoring⟩ ∧
      r.match? .exact "ky\u212A".toList = some ⟨[(['b'], ['y', '\u212A'])], .exact⟩ := by
  have compiled : compile "{a}k{b}".toList =
      .ok ⟨"{a}k{b}".toList, [.placeholder ['a'], .literal ['k'], .placeholder ['b']]⟩ := by rfl
  have matched : match?
      ⟨"{a}k{b}".toList, [.placeholder ['a'], .literal ['k'], .placeholder ['b']]⟩ .ignoring
      "\u212Ay\u212A".toList = some ⟨[(['b'], ['y', '\u212A'])], .ignoring⟩ := by rfl
  exact ⟨_, compiled, matched, (match?_canonical compiled matched).1⟩

end Template
end Phrasebook
