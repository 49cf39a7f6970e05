import Mathlib.Data.List.Forall2
import Phrasebook.Proofs.Template.Lookup

/-! Matching cannot tell apart what is the same under its rule. If two lines are the same and the
literals of two templates are, then either both lines match or neither does, and the values captured
are stretches of the two lines at the same place. Places are counted in characters, since the bytes
of the same character may differ in number. -/
namespace Phrasebook

namespace CaseRule

variable {rule : CaseRule}

/-- As many texts in both lists, and pairwise the same. -/
def SameTexts (rule : CaseRule) : List Text → List Text → Prop :=
  List.Forall₂ fun v w => rule.sameText v w = true

theorem SameTexts.symm {segments others : List Text} (h : rule.SameTexts segments others) :
    rule.SameTexts others segments :=
  h.flip.imp fun v w same => (sameText_symm rule v w).trans same

/-- Of two texts that are the same, each may give way to one that is the same as it. -/
theorem sameText_congr {t u v w : Text} (first : rule.sameText t u = true)
    (second : rule.sameText v w = true) (same : rule.sameText t v = true) :
    rule.sameText u w = true := by
  have back : rule.sameText u t = true := (sameText_symm rule u t).trans first
  exact sameText_trans (sameText_trans back same) second

/-- A text that is the same as a cut one can be cut at the same places. -/
theorem sameText_flatten_iff {t : Text} {segments : List Text} :
    rule.sameText t segments.flatten = true ↔
      ∃ pieces, t = pieces.flatten ∧ rule.SameTexts pieces segments := by
  induction segments generalizing t with
  | nil =>
    constructor
    · intro same
      exact ⟨[], List.eq_nil_of_length_eq_zero (sameText_length same), .nil⟩
    · rintro ⟨_, rfl, same⟩
      cases same
      rfl
  | cons w segments ih =>
    rw [List.flatten_cons, sameText_append_iff]
    constructor
    · rintro ⟨v, t, rfl, here, later⟩
      obtain ⟨pieces, rfl, same⟩ := ih.1 later
      exact ⟨v :: pieces, rfl, .cons here same⟩
    · rintro ⟨_, rfl, same⟩
      cases same with
      | @cons v _ pieces _ here later =>
        exact ⟨v, pieces.flatten, rfl, here, ih.2 ⟨pieces, rfl, later⟩⟩

end CaseRule

namespace Occurrence

variable {rule : CaseRule} {x y t u : Text} {o p : Occurrence}

/-- Where one text occurs, a text that is the same occurs in a text that is the same. -/
theorem Cuts.congr (h : Cuts rule x t p) (text : rule.sameText u t = true)
    (word : rule.sameText x y = true) :
    ∃ q, Cuts rule y u q ∧ q.before.length = p.before.length := by
  rw [h.whole] at text
  obtain ⟨_, after, rfl, front, _⟩ := CaseRule.sameText_append_iff.1 text
  obtain ⟨before, found, rfl, start, here⟩ := CaseRule.sameText_append_iff.1 front
  have same := CaseRule.sameText_trans (CaseRule.sameText_trans here h.same) word
  exact ⟨⟨before, found, after⟩, ⟨rfl, same⟩, CaseRule.sameText_length start⟩

theorem Leftmost.congr (h : Leftmost rule x t o) (word : rule.sameText x y = true)
    (before : rule.sameText o.before p.before = true) (found : rule.sameText o.found p.found = true)
    (after : rule.sameText o.after p.after = true) :
    Leftmost rule y (p.before ++ p.found ++ p.after) p := by
  have same := CaseRule.sameText_congr found word h.cuts.same
  have text : rule.sameText t (p.before ++ p.found ++ p.after) = true := by
    rw [h.cuts.whole]
    refine CaseRule.sameText_append_iff.2 ⟨_, _, rfl, ?_, after⟩
    exact CaseRule.sameText_append_iff.2 ⟨_, _, rfl, before, found⟩
  refine ⟨⟨rfl, same⟩, fun q cuts => ?_⟩
  obtain ⟨q', cuts', start⟩ := cuts.congr text ((CaseRule.sameText_symm rule y x).trans word)
  have least := h.least q' cuts'
  rwa [start, CaseRule.sameText_length before] at least

end Occurrence

/-- Parts of one sort: literals that are the same under the rule, or placeholders of one name. -/
inductive Part.Alike (rule : CaseRule) : Part → Part → Prop
  | literal {x y : Text} : rule.sameText x y = true → Alike rule (.literal x) (.literal y)
  | placeholder (name : Text) : Alike rule (.placeholder name) (.placeholder name)

theorem Part.Alike.refl (rule : CaseRule) (p : Part) : Alike rule p p := by
  cases p with
  | literal x => exact .literal (CaseRule.sameText_refl rule x)
  | placeholder name => exact .placeholder name

theorem Part.Alike.symm {rule : CaseRule} {p q : Part} (h : Alike rule p q) : Alike rule q p := by
  cases h with
  | literal same => exact .literal ((CaseRule.sameText_symm rule _ _).trans same)
  | placeholder name => exact .placeholder name

namespace Template

open Occurrence

variable {rule : CaseRule} {parts others : List Part} {line line' : Text}
  {segments pieces : List Text}

/-- By induction on the parts, as they are cut off one by one. -/
theorem Cut.congr : ∀ {parts others : List Part} {line : Text} {segments pieces : List Text},
    parts.IsChain Part.Apart → Cut rule parts line segments →
      List.Forall₂ (Part.Alike rule) parts others → rule.SameTexts segments pieces →
      Cut rule others pieces.flatten pieces
  | [], _, _, _, _, _, h, .nil, same => by
    obtain ⟨rfl, _⟩ := cut_nil_iff.1 h
    cases same
    exact cut_nil_iff.2 ⟨rfl, rfl⟩
  | .literal _ :: _, _, _, _, _, apart, h, .cons (.literal word) alike, same => by
    obtain ⟨w, more, rest, rfl, _, here, inner⟩ := cut_literal_iff.1 h
    cases same with
    | @cons _ u _ pieces found later =>
      exact cut_literal_iff.2 ⟨u, pieces.flatten, pieces, rfl, rfl,
        CaseRule.sameText_congr found word here, congr apart.tail inner alike later⟩
  | [.placeholder _], _, _, _, _, _, h, .cons (.placeholder _) .nil, same => by
    cases cut_last_iff.1 h
    obtain ⟨u, rfl⟩ := List.length_eq_one_iff.1 same.length_eq.symm
    exact cut_last_iff.2 (by simp)
  | .placeholder _ :: .literal _ :: _, _, _, _, _, apart, h,
      .cons (.placeholder _) (.cons (.literal word) alike), same => by
    obtain ⟨o, rest, leftmost, rfl, inner⟩ := cut_placeholder_iff.1 h
    cases same with
    | @cons _ v _ _ before same =>
      cases same with
      | @cons _ u _ pieces found later =>
        have after : rule.sameText o.after pieces.flatten = true :=
          CaseRule.sameText_flatten_iff.2 ⟨rest, inner.whole.symm, later⟩
        have leftmost' := leftmost.congr (p := ⟨v, u, pieces.flatten⟩) word before found after
        rw [List.flatten_cons, List.flatten_cons, ← List.append_assoc]
        exact cut_placeholder_iff.2
          ⟨_, pieces, leftmost', rfl, congr apart.tail.tail inner alike later⟩
  | .placeholder _ :: .placeholder _ :: _, _, _, _, _, apart, _, _, _ =>
    absurd apart Part.not_isChain_placeholders

/-- Two captures under one name: stretches of two lines that are the same, at the same place. -/
structure Counterparts (rule : CaseRule) (line line' : Text) (p q : Text × Text) : Prop where
  name : p.1 = q.1
  value : rule.sameText p.2 q.2 = true
  place : ∃ front back front' back', line = front ++ p.2 ++ back ∧ line' = front' ++ q.2 ++ back' ∧
    front.length = front'.length

/-- By induction on the parts, behind any two fronts of one length. -/
theorem captured_congr {front front' : Text} (length : front.length = front'.length)
    (alike : List.Forall₂ (Part.Alike rule) parts others) (same : rule.SameTexts segments pieces) :
    List.Forall₂ (Counterparts rule (front ++ segments.flatten) (front' ++ pieces.flatten))
      (captured parts segments) (captured others pieces) := by
  induction alike generalizing segments pieces front front' with
  | nil => exact .nil
  | cons part alike ih =>
    cases same with
    | nil => simp [captured]
    | @cons v w segments pieces here later =>
      have size := CaseRule.sameText_length here
      have further : (front ++ v).length = (front' ++ w).length := by simp [length, size]
      have rest := ih further later
      rw [List.append_assoc, List.append_assoc] at rest
      rw [List.flatten_cons, List.flatten_cons]
      cases part with
      | literal _ => exact rest
      | placeholder name =>
        rw [captured_placeholder, captured_placeholder]
        by_cases empty : v = []
        · subst empty
          cases List.eq_nil_of_length_eq_zero size.symm
          exact rest
        · have filled : w ≠ [] := by
            rintro rfl
            exact empty (List.eq_nil_of_length_eq_zero size)
          rw [if_neg empty, if_neg filled]
          have place : front ++ (v ++ segments.flatten) = front ++ v ++ segments.flatten ∧
              front' ++ (w ++ pieces.flatten) = front' ++ w ++ pieces.flatten := by simp
          exact .cons ⟨rfl, here, front, _, front', _, place.1, place.2, length⟩ rest

/-- A line that is the same matches a template that is alike. -/
theorem match?_congr {r r' : Template} (regular : Part.Regular r.parts)
    (regular' : Part.Regular r'.parts) (alike : List.Forall₂ (Part.Alike rule) r.parts r'.parts)
    (same : rule.sameText line line' = true) {c : Captures}
    (matched : r.match? rule line = some c) :
    ∃ c', r'.match? rule line' = some c' ∧
      List.Forall₂ (Counterparts rule line line') c.values c'.values := by
  obtain ⟨segments, cut, rfl⟩ := (match?_cut regular).1 matched
  have cuttable : rule.sameText line' segments.flatten = true := by
    rw [cut.whole, CaseRule.sameText_symm]
    exact same
  obtain ⟨pieces, rfl, pairs⟩ := CaseRule.sameText_flatten_iff.1 cuttable
  have start : ([] : Text).length = ([] : Text).length := rfl
  have values := captured_congr start alike pairs.symm
  rw [cut.whole] at values
  have cut' := Cut.congr regular.apart cut alike pairs.symm
  exact ⟨_, (match?_cut regular').2 ⟨pieces, cut', rfl⟩, values⟩

/-- Whether a line matches, ignoring case, does not depend on case, be it of the line or of the
literals; and what is captured has the case of its own line. -/
theorem match?_ignores_case {source source' : Text} {r r' : Template}
    (compiled : compile source = .ok r) (compiled' : compile source' = .ok r')
    (alike : List.Forall₂ (Part.Alike .ignoring) r.parts r'.parts)
    (same : CaseRule.ignoring.sameText line line' = true) :
    ((∃ c, r.match? .ignoring line = some c) ↔ ∃ c', r'.match? .ignoring line' = some c') ∧
    ∀ c c', r.match? .ignoring line = some c → r'.match? .ignoring line' = some c' →
      List.Forall₂ (Counterparts .ignoring line line') c.values c'.values := by
  have regular := compile_regular compiled
  have regular' := compile_regular compiled'
  have alike' := alike.flip.imp fun _ _ pair => Part.Alike.symm pair
  have same' := (CaseRule.sameText_symm .ignoring line' line).trans same
  refine ⟨⟨?_, ?_⟩, fun c c' matched matched' => ?_⟩
  · rintro ⟨c, matched⟩
    obtain ⟨c', matched', _⟩ := match?_congr regular regular' alike same matched
    exact ⟨c', matched'⟩
  · rintro ⟨c', matched'⟩
    obtain ⟨c, matched, _⟩ := match?_congr regular' regular alike' same' matched'
    exact ⟨c, matched⟩
  · obtain ⟨d, found, values⟩ := match?_congr regular regular' alike same matched
    cases found.symm.trans matched'
    exact values

/-- The literal takes one byte in one line and three in the other, so the values after it start at
different bytes. -/
theorem kelvin_line_matches :
    ∃ r r', compile "{a}k{b}".toList = .ok r ∧ compile "{a}K{b}".toList = .ok r' ∧
      List.Forall₂ (Part.Alike .ignoring) r.parts r'.parts ∧
      CaseRule.ignoring.sameText "Äky".toList "ä\u212AY".toList = true ∧
      List.Forall₂ (Counterparts .ignoring "Äky".toList "ä\u212AY".toList)
        [(['a'], ['Ä']), (['b'], ['y'])] [(['a'], ['ä']), (['b'], ['Y'])] := by
  have compiled : compile "{a}k{b}".toList =
      .ok ⟨"{a}k{b}".toList, [.placeholder ['a'], .literal ['k'], .placeholder ['b']]⟩ := by rfl
  have compiled' : compile "{a}K{b}".toList =
      .ok ⟨"{a}K{b}".toList, [.placeholder ['a'], .literal ['K'], .placeholder ['b']]⟩ := by rfl
  have alike : List.Forall₂ (Part.Alike .ignoring)
      [.placeholder ['a'], .literal ['k'], .placeholder ['b']]
      [.placeholder ['a'], .literal ['K'], .placeholder ['b']] :=
    .cons (.placeholder _) (.cons (.literal (by decide)) (.cons (.placeholder _) .nil))
  have same : CaseRule.ignoring.sameText "Äky".toList "ä\u212AY".toList = true := by decide
  have captures := (match?_ignores_case compiled compiled' alike same).2
    ⟨[(['a'], ['Ä']), (['b'], ['y'])], .ignoring⟩ ⟨[(['a'], ['ä']), (['b'], ['Y'])], .ignoring⟩
    (by decide) (by decide)
  exact ⟨_, _, compiled, compiled', alike, same, captures⟩

end Template
end Phrasebook
