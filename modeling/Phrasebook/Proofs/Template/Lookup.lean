import Phrasebook.Proofs.Template.Cut
import Phrasebook.Proofs.Template.Names

/-! What is looked up in captures. Names that a rule tells apart are looked up independently of each
other, and for every template there is a line that captures all of its names. -/
namespace Phrasebook.Template

open Occurrence

variable {rule : CaseRule}

/-- No two names are the same under the rule, so at most one is the same as the name that is looked
up. -/
theorem Distinct.find?_eq_some_iff {values : List (Text × Text)} {key raw name : Text}
    (distinct : Distinct rule (values.map Prod.fst)) (member : (key, raw) ∈ values) :
    (values.find? fun value => rule.sameText value.1 name) = some (key, raw) ↔
      rule.sameText key name = true := by
  constructor
  · intro found
    exact List.find?_some (p := fun value : Text × Text => rule.sameText value.1 name) found
  · intro same
    induction values with
    | nil => cases member
    | cons value values ih =>
      obtain ⟨apart, distinct⟩ := List.pairwise_cons.1 distinct
      rcases List.mem_cons.1 member with rfl | later
      · exact List.find?_cons_of_pos same
      · have other : rule.sameText value.1 name = false := by
          apply Bool.eq_false_iff.2
          intro also
          have clash := CaseRule.sameText_trans also ((rule.sameText_symm name key).trans same)
          rw [apart key (List.mem_map_of_mem later)] at clash
          cases clash
        simp only [List.find?_cons, other]
        exact ih distinct later

theorem captured_keys (parts : List Part) (segments : List Text) :
    ((captured parts segments).map Prod.fst).Sublist (Part.names parts) := by
  induction parts generalizing segments with
  | nil => exact .slnil
  | cons part parts ih =>
    cases segments with
    | nil => exact List.nil_sublist _
    | cons v segments =>
      cases part with
      | literal x => exact ih segments
      | placeholder name =>
        rw [captured_placeholder, List.map_append]
        split
        · exact (ih segments).cons name
        · exact (ih segments).cons_cons name

/-- What is captured is every segment of a placeholder that is not empty. -/
theorem mem_captured_iff {parts : List Part} {segments : List Text} {name v : Text} :
    (name, v) ∈ captured parts segments ↔
      (.placeholder name, v) ∈ parts.zip segments ∧ v ≠ [] := by
  simp only [captured, List.mem_filterMap]
  constructor
  · rintro ⟨⟨part, w⟩, member, kept⟩
    cases part with
    | literal x => cases kept
    | placeholder other =>
      by_cases empty : w = []
      · simp [empty] at kept
      · obtain ⟨rfl, rfl⟩ : other = name ∧ w = v := by simpa [empty] using kept
        exact ⟨member, empty⟩
  · rintro ⟨member, named⟩
    exact ⟨_, member, by simp [named]⟩

theorem exists_different (rule : CaseRule) (a : Char) : ∃ b, rule.same b a = false := by
  cases same : rule.same 'a' a with
  | false => exact ⟨'a', same⟩
  | true =>
    refine ⟨'b', Bool.eq_false_iff.2 fun also => ?_⟩
    have clash := CaseRule.same_trans same ((rule.same_symm a 'b').trans also)
    cases rule <;> exact absurd clash (by decide)

/-- A character that is different from the first one of the literal can stand alone before it. -/
theorem leftmost_after {a c : Char} {x more : Text} (different : rule.same c a = false) :
    Leftmost rule (a :: x) (c :: (a :: x ++ more)) ⟨[c], a :: x, more⟩ := by
  refine ⟨⟨rfl, CaseRule.sameText_refl _ _⟩, ?_⟩
  rintro ⟨before, found, after⟩ cuts
  cases before with
  | cons d before => exact Nat.succ_le_succ (Nat.zero_le _)
  | nil =>
    have same := cuts.same
    cases found with
    | nil => cases same
    | cons d found =>
      obtain ⟨rfl, _⟩ := List.cons.inj cuts.whole
      simp [CaseRule.sameText, different] at same

/-- Some line gives every placeholder something to capture. -/
theorem exists_cut (rule : CaseRule) : ∀ {parts : List Part}, .literal [] ∉ parts →
    parts.IsChain Part.Apart → ∃ line segments, Cut rule parts line segments ∧
      (captured parts segments).map Prod.fst = Part.names parts
  | [], _, _ => ⟨[], [], cut_nil_iff.2 ⟨rfl, rfl⟩, rfl⟩
  | .literal x :: parts, texts, apart => by
    obtain ⟨line, segments, cut, keys⟩ :=
      exists_cut rule (fun member => texts (List.mem_cons_of_mem _ member)) apart.tail
    refine ⟨x ++ line, x :: segments, cut_literal_iff.2 ⟨x, line, segments, rfl, rfl, ?_, cut⟩, keys⟩
    exact CaseRule.sameText_refl _ _
  | [.placeholder name], _, _ => ⟨['a'], [['a']], cut_last_iff.2 rfl, rfl⟩
  | .placeholder name :: .literal [] :: parts, texts, _ => absurd (by simp) texts
  | .placeholder name :: .literal (a :: x) :: parts, texts, apart => by
    have texts' : .literal [] ∉ parts := fun member =>
      texts (List.mem_cons_of_mem _ (List.mem_cons_of_mem _ member))
    obtain ⟨line, segments, cut, keys⟩ := exists_cut rule texts' apart.tail.tail
    obtain ⟨c, different⟩ := exists_different rule a
    refine ⟨_, [c] :: (a :: x) :: segments,
      cut_placeholder_iff.2 ⟨_, segments, leftmost_after different, rfl, cut⟩, ?_⟩
    exact congrArg (name :: ·) keys
  | .placeholder _ :: .placeholder _ :: _, _, apart =>
    absurd apart Part.not_isChain_placeholders

section Match

variable {r : Template}

theorem match?_cut (regular : Part.Regular r.parts) {line : Text} {c : Captures} :
    r.match? rule line = some c ↔
      ∃ segments, Cut rule r.parts line segments ∧ c = ⟨captured r.parts segments, rule⟩ := by
  have matched {values} : matchParts rule none r.parts line = some values ↔ _ :=
    matchParts_eq_some_iff none line values regular.literals regular.apart
  simp only [match?, Option.map_eq_some_iff, matched]
  constructor
  · rintro ⟨_, ⟨segments, cut, rfl⟩, rfl⟩
    exact ⟨segments, cut, rfl⟩
  · rintro ⟨segments, cut, rfl⟩
    exact ⟨_, ⟨segments, cut, rfl⟩, rfl⟩

/-- What is captured for a name is found under every name that is the same, and under no other. -/
theorem find?_captured_iff (regular : Part.Regular r.parts) (distinct : Distinct rule r.names)
    {line key raw name : Text} {c : Captures} (matched : r.match? rule line = some c)
    (member : (key, raw) ∈ c.values) :
    (c.values.find? fun value => c.rule.sameText value.1 name) = some (key, raw) ↔
      rule.sameText key name = true := by
  obtain ⟨segments, _, rfl⟩ := (match?_cut regular).1 matched
  exact Distinct.find?_eq_some_iff (distinct.sublist (captured_keys r.parts segments)) member

/-- A look-up finds a text exactly if it was captured for a name that is the same. -/
theorem get?_captured_iff (regular : Part.Regular r.parts) (distinct : Distinct rule r.names)
    {line raw name : Text} {c : Captures} (matched : r.match? rule line = some c) :
    c.get? name = some raw ↔ ∃ key, (key, raw) ∈ c.values ∧ rule.sameText key name = true := by
  simp only [Captures.get?, Option.map_eq_some_iff]
  constructor
  · rintro ⟨⟨key, _⟩, found, rfl⟩
    have member := List.mem_of_find?_eq_some found
    exact ⟨key, member, (find?_captured_iff regular distinct matched member).1 found⟩
  · rintro ⟨key, member, same⟩
    exact ⟨_, (find?_captured_iff regular distinct matched member).2 same, rfl⟩

theorem exists_captured (rule : CaseRule) (regular : Part.Regular r.parts) {name : Text}
    (present : name ∈ r.names) :
    ∃ line c raw, r.match? rule line = some c ∧ (name, raw) ∈ c.values := by
  obtain ⟨line, segments, cut, keys⟩ := exists_cut rule regular.literals regular.apart
  have present : name ∈ (captured r.parts segments).map Prod.fst := keys ▸ present
  obtain ⟨⟨_, raw⟩, member, rfl⟩ := List.mem_map.1 present
  exact ⟨line, _, raw, (match?_cut regular).2 ⟨segments, cut, rfl⟩, member⟩

end Match

end Phrasebook.Template
