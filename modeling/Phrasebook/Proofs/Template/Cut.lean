import Phrasebook.Proofs.Template.Leftmost
import Phrasebook.Proofs.Template.Regular
import Phrasebook.Template.Match

/-! A line matches a template exactly when it can be cut into one segment for each part. There
is one way to cut it at most, and the segments of the placeholders are what is captured. -/
namespace Phrasebook.Template

open Occurrence

/-- The segments of a line for some parts. A literal takes a segment that is the same as it, and
the placeholder before it ends where the literal first occurs. -/
structure Cut (rule : CaseRule) (parts : List Part) (line : Text) (segments : List Text) :
    Prop where
  count : segments.length = parts.length
  whole : segments.flatten = line
  literal : ∀ x w, (Part.literal x, w) ∈ parts.zip segments → rule.sameText w x = true
  clear : ∀ name v x w,
    [(Part.placeholder name, v), (Part.literal x, w)] <:+: parts.zip segments → Clear rule x v w

/-- The names of the placeholders with their segments, unless these are empty. -/
def captured (parts : List Part) (segments : List Text) : List (Text × Text) :=
  (parts.zip segments).filterMap fun
    | (.placeholder name, v) => if v = [] then none else some (name, v)
    | (.literal _, _) => none

variable {rule : CaseRule} {parts : List Part} {line x name : Text} {segments : List Text}

@[simp] theorem captured_nil : captured [] segments = [] := rfl

@[simp] theorem captured_literal (w : Text) :
    captured (.literal x :: parts) (w :: segments) = captured parts segments := rfl

@[simp] theorem captured_placeholder (v : Text) :
    captured (.placeholder name :: parts) (v :: segments) =
      (if v = [] then [] else [(name, v)]) ++ captured parts segments := by
  by_cases h : v = [] <;> simp [captured, h]

theorem cut_nil_iff : Cut rule [] line segments ↔ segments = [] ∧ line = [] := by
  constructor
  · intro h
    have empty := List.eq_nil_of_length_eq_zero h.count
    exact ⟨empty, by rw [← h.whole, empty]; rfl⟩
  · rintro ⟨rfl, rfl⟩
    exact ⟨rfl, rfl, by simp, by simp⟩

theorem cut_literal_iff :
    Cut rule (.literal x :: parts) line segments ↔
      ∃ w more rest, segments = w :: rest ∧ line = w ++ more ∧ rule.sameText w x = true ∧
        Cut rule parts more rest := by
  constructor
  · intro h
    cases segments with
    | nil => simpa using h.count
    | cons w rest =>
      refine ⟨w, rest.flatten, rest, rfl, h.whole.symm, h.literal x w (by simp), ?_⟩
      refine ⟨Nat.succ.inj h.count, rfl, fun y u hy => ?_, fun n v y u hy => ?_⟩
      · exact h.literal y u (List.mem_cons_of_mem _ hy)
      · exact h.clear n v y u (List.infix_cons hy)
  · rintro ⟨w, more, rest, rfl, rfl, same, h⟩
    refine ⟨congrArg Nat.succ h.count, congrArg (w ++ ·) h.whole, fun y u hy => ?_,
      fun n v y u hy => ?_⟩
    · rcases List.mem_cons.1 hy with here | later
      · cases here; exact same
      · exact h.literal y u later
    · rcases List.infix_cons_iff.1 hy with here | later
      · simp [List.cons_prefix_cons] at here
      · exact h.clear n v y u later

/-- A last placeholder takes everything. -/
theorem cut_last_iff : Cut rule [.placeholder name] line segments ↔ segments = [line] := by
  constructor
  · intro h
    obtain ⟨v, rfl⟩ := List.length_eq_one_iff.1 h.count
    simpa using h.whole
  · rintro rfl
    refine ⟨rfl, by simp, by simp, fun n v y u hy => ?_⟩
    have := hy.length_le
    simp at this

/-- A placeholder before a literal takes the text before the leftmost occurrence. -/
theorem cut_placeholder_iff :
    Cut rule (.placeholder name :: .literal x :: parts) line segments ↔
      ∃ o rest, Leftmost rule x line o ∧ segments = o.before :: o.found :: rest ∧
        Cut rule parts o.after rest := by
  constructor
  · intro h
    match segments, h with
    | [], h => simpa using h.count
    | [_], h => simpa using h.count
    | v :: w :: rest, h =>
      have clear : Clear rule x v w :=
        h.clear name v x w (List.IsPrefix.isInfix ⟨parts.zip rest, rfl⟩)
      have same := h.literal x w (by simp)
      refine ⟨⟨v, w, rest.flatten⟩, rest, leftmost_iff_clear.2 ⟨⟨?_, same⟩, clear⟩, rfl, ?_⟩
      · simpa using h.whole.symm
      · refine ⟨by simpa using h.count, rfl, fun y u hy => ?_, fun n v y u hy => ?_⟩
        · exact h.literal y u (List.mem_cons_of_mem _ (List.mem_cons_of_mem _ hy))
        · exact h.clear n v y u (List.infix_cons (List.infix_cons hy))
  · rintro ⟨⟨v, w, more⟩, rest, leftmost, rfl, h⟩
    obtain ⟨cuts, clear⟩ := leftmost_iff_clear.1 leftmost
    have inner : Cut rule (.literal x :: parts) (w ++ more) (w :: rest) :=
      cut_literal_iff.2 ⟨w, more, rest, rfl, rfl, cuts.same, h⟩
    refine ⟨congrArg Nat.succ inner.count, ?_, fun y u hy => ?_, fun n u y w' hy => ?_⟩
    · simpa [h.whole] using cuts.whole.symm
    · rcases List.mem_cons.1 hy with here | later
      · cases here
      · exact inner.literal y u later
    · rcases List.infix_cons_iff.1 hy with here | later
      · obtain ⟨first, second⟩ := List.cons_prefix_cons.1 here
        cases first
        cases List.singleton_prefix_cons_iff.1 second
        exact clear
      · exact inner.clear n u y w' later

/-- Neighbouring placeholders are the only reason for a choice between cuts. -/
theorem Cut.unique : ∀ {parts : List Part} {line : Text} {segments others : List Text},
    parts.IsChain Part.Apart → Cut rule parts line segments → Cut rule parts line others →
      segments = others
  | [], _, _, _, _, h, k => (cut_nil_iff.1 h).1.trans (cut_nil_iff.1 k).1.symm
  | .literal _ :: _, _, _, _, apart, h, k => by
    obtain ⟨w, more, rest, rfl, rfl, same, h⟩ := cut_literal_iff.1 h
    obtain ⟨u, _, _, rfl, whole, same', k⟩ := cut_literal_iff.1 k
    have length : w.length = u.length :=
      (CaseRule.sameText_length same).trans (CaseRule.sameText_length same').symm
    obtain ⟨rfl, rfl⟩ := List.append_inj whole length
    rw [unique apart.tail h k]
  | [.placeholder _], _, _, _, _, h, k => (cut_last_iff.1 h).trans (cut_last_iff.1 k).symm
  | .placeholder _ :: .literal _ :: _, _, _, _, apart, h, k => by
    obtain ⟨o, rest, leftmost, rfl, inner⟩ := cut_placeholder_iff.1 h
    obtain ⟨p, _, leftmost', rfl, inner'⟩ := cut_placeholder_iff.1 k
    cases leftmost.unique leftmost'
    rw [unique apart.tail.tail inner inner']
  | .placeholder _ :: .placeholder _ :: _, _, _, _, apart, _, _ =>
    absurd apart Part.not_isChain_placeholders

theorem capture_none_iff {stretch : Text} {here : List (Text × Text)} :
    capture none stretch = some here ↔ stretch = [] ∧ here = [] := by
  by_cases h : stretch = [] <;> simp [capture, h, eq_comm]

theorem capture_some (stretch : Text) :
    capture (some name) stretch = some (if stretch = [] then [] else [(name, stretch)]) := by
  by_cases h : stretch = [] <;> simp [capture, h]

theorem matchParts_literal_iff {waiting : Option Text} {values : List (Text × Text)} :
    matchParts rule waiting (.literal x :: parts) line = some values ↔
      ∃ o here later, first? rule x line = some o ∧ capture waiting o.before = some here ∧
        matchParts rule none parts o.after = some later ∧ here ++ later = values := by
  cases found : first? rule x line with
  | none => simp [matchParts, found]
  | some o =>
    cases taken : capture waiting o.before with
    | none => simp [matchParts, found, taken]
    | some here => simp [matchParts, found, taken]

/-- The parts still to be matched, with the placeholder that waits for its end in front. -/
def pending (waiting : Option Text) (parts : List Part) : List Part :=
  waiting.toList.map .placeholder ++ parts

/-- By induction on the parts. A waiting placeholder and the literal after it are cut off in one
step, so the induction is over all waiting placeholders at once. -/
theorem matchParts_eq_some_iff (waiting : Option Text) (line : Text) (values : List (Text × Text))
    (texts : .literal [] ∉ parts) (apart : (pending waiting parts).IsChain Part.Apart) :
    matchParts rule waiting parts line = some values ↔
      ∃ segments, Cut rule (pending waiting parts) line segments ∧
        values = captured (pending waiting parts) segments := by
  induction parts generalizing waiting line values with
  | nil =>
    cases waiting with
    | none => simp [matchParts, pending, capture_none_iff, cut_nil_iff]
    | some name => simp [matchParts, pending, capture_some, cut_last_iff, eq_comm]
  | cons p parts ih =>
    have texts' : .literal [] ∉ parts := fun h => texts (List.mem_cons_of_mem _ h)
    cases p with
    | placeholder name =>
      cases waiting with
      | none => exact ih (some name) line values texts' apart
      | some other => exact absurd apart Part.not_isChain_placeholders
    | literal x =>
      have nonempty : x ≠ [] := by rintro rfl; simp at texts
      rw [matchParts_literal_iff]
      cases waiting with
      | none =>
        have ih {line values} := ih none line values texts' apart.tail
        simp only [pending, Option.toList_none, List.map_nil, List.nil_append] at ih ⊢
        constructor
        · rintro ⟨⟨before, w, more⟩, _, later, found, taken, matched, rfl⟩
          obtain ⟨rfl, rfl⟩ := capture_none_iff.1 taken
          obtain ⟨rest, cut, rfl⟩ := ih.1 matched
          have cuts := (first?_leftmost found).cuts
          exact ⟨w :: rest, cut_literal_iff.2 ⟨w, more, rest, rfl, cuts.whole, cuts.same, cut⟩, rfl⟩
        · rintro ⟨_, cut, rfl⟩
          obtain ⟨w, more, rest, rfl, rfl, same, cut⟩ := cut_literal_iff.1 cut
          have atStart : Leftmost rule x (w ++ more) ⟨[], w, more⟩ :=
            ⟨⟨rfl, same⟩, fun _ _ => Nat.zero_le _⟩
          exact ⟨_, [], _, (first?_eq_some_iff nonempty).2 atStart, rfl, ih.2 ⟨rest, cut, rfl⟩, rfl⟩
      | some name =>
        have ih {line values} := ih none line values texts' apart.tail.tail
        simp only [pending, Option.toList_none, Option.toList_some, List.map_cons, List.map_nil,
          List.nil_append, List.cons_append, capture_some, first?_eq_some_iff nonempty,
          cut_placeholder_iff] at ih ⊢
        constructor
        · rintro ⟨o, _, later, leftmost, taken, matched, rfl⟩
          cases taken
          obtain ⟨rest, cut, rfl⟩ := ih.1 matched
          exact ⟨_, ⟨o, rest, leftmost, rfl, cut⟩, by simp⟩
        · rintro ⟨_, ⟨o, rest, leftmost, rfl, cut⟩, rfl⟩
          exact ⟨o, _, _, leftmost, rfl, ih.2 ⟨rest, cut, rfl⟩, by simp⟩

/-- Matching a line against a compiled template is cutting it. -/
theorem match?_eq_some_iff_cut {source : Text} {r : Template} (compiled : compile source = .ok r)
    (rule : CaseRule) (line : Text) :
    (∀ c, r.match? rule line = some c ↔
      ∃ segments, Cut rule r.parts line segments ∧ c = ⟨captured r.parts segments, rule⟩) ∧
    (∀ segments others, Cut rule r.parts line segments → Cut rule r.parts line others →
      segments = others) := by
  have regular := compile_regular compiled
  refine ⟨fun c => ?_, fun segments others h k => h.unique regular.apart k⟩
  have matched {values} : matchParts rule none r.parts line = some values ↔ _ :=
    matchParts_eq_some_iff none line values regular.literals regular.apart
  simp only [match?, Option.map_eq_some_iff]
  constructor
  · rintro ⟨_, found, rfl⟩
    obtain ⟨segments, cut, rfl⟩ := matched.1 found
    exact ⟨segments, cut, rfl⟩
  · rintro ⟨segments, cut, rfl⟩
    exact ⟨_, matched.2 ⟨segments, cut, rfl⟩, rfl⟩

/-- The Kelvin sign takes three bytes and is the same as the letter, which takes one. -/
theorem kelvin_sign_is_cut :
    compile "{a}k{b}".toList =
      .ok ⟨"{a}k{b}".toList, [.placeholder ['a'], .literal ['k'], .placeholder ['b']]⟩ ∧
    ∃ segments,
      Cut .ignoring [.placeholder ['a'], .literal ['k'], .placeholder ['b']]
        "x\u212Ayk".toList segments ∧
      (⟨[(['a'], ['x']), (['b'], ['y', 'k'])], .ignoring⟩ : Captures) =
        ⟨captured [.placeholder ['a'], .literal ['k'], .placeholder ['b']] segments, .ignoring⟩ := by
  have compiled : compile "{a}k{b}".toList =
      .ok ⟨"{a}k{b}".toList, [.placeholder ['a'], .literal ['k'], .placeholder ['b']]⟩ := by rfl
  refine ⟨compiled, ((match?_eq_some_iff_cut compiled .ignoring _).1 _).1 ?_⟩
  decide

end Phrasebook.Template
