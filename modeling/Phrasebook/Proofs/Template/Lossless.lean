import Phrasebook.Proofs.Template.Names
import Phrasebook.Proofs.Template.Printing

/-! What a compiled template says about its source. The source is the parts, written out in order,
with empty braces somewhere between; no name holds an opening brace, or more than one closing brace.
An error about neighbouring placeholders points at an opening brace behind a closing one. -/
namespace Phrasebook

/-- The text is the parts, written out in order. Before, between and after them stand any number of
empty braces, and nothing else. -/
inductive Part.Padded : List Part → Text → Prop
  | nil : Padded [] []
  | pad {parts : List Part} {t : Text} : Padded parts t → Padded parts ('{' :: '}' :: t)
  | part {parts : List Part} {t : Text} (p : Part) :
      Padded parts t → Padded (p :: parts) (p.written ++ t)

namespace Template

variable {t rest : Text} {boundary : Nat} {spans : List Span} {s : Span}

/-- Text that may be empty, and then is no literal. -/
theorem padded_lead {parts : List Part} (x : Text) (h : Part.Padded parts t) :
    Part.Padded (Part.spanned x [] ++ parts) (x ++ t) := by
  by_cases empty : x = []
  · subst empty
    exact h
  · simpa [Part.spanned, Part.written, empty] using h.part (.literal x)

/-- A span without a name leaves its braces as padding. -/
theorem padded_spanned {parts : List Part} (lead name : Text) (h : Part.Padded parts t) :
    Part.Padded (Part.spanned lead name ++ parts) (lead ++ '{' :: name ++ '}' :: t) := by
  have named : Part.Padded (Part.spanned [] name ++ parts) ('{' :: name ++ '}' :: t) := by
    by_cases empty : name = []
    · subst empty
      exact .pad h
    · simpa [Part.spanned, Part.written, empty] using h.part (.placeholder name)
  simpa [Part.spanned] using padded_lead lead named

/-- By induction on the spans: each is its literal and its name in braces, and the rest is a
literal. -/
theorem Spans.padded (h : Spans boundary t spans rest) :
    Part.Padded (spans.flatMap Span.parts ++ Part.spanned rest []) t := by
  induction h with
  | @last _ t _ => simpa using padded_lead t Part.Padded.nil
  | next _ _ _ _ ih =>
    rw [List.flatMap_cons, List.append_assoc]
    exact padded_spanned _ _ ih

/-- A span stands with its braces behind some text, which ends with a closing brace if it is not
empty. -/
structure Span.Stands (s : Span) (boundary : Nat) (t front back : Text) : Prop where
  whole : t = front ++ (s.lead ++ '{' :: s.name ++ '}' :: back)
  offset : s.boundary = boundary + Text.byteSize front
  ended : front = [] ∨ ∃ earlier, front = earlier ++ ['}']
  closes : Closes (s.lead ++ '{' :: s.name)
  unclosed : Open (s.lead ++ '{' :: s.name)
  last : '{' ∉ s.name

theorem Spans.stands (h : Spans boundary t spans rest) (member : s ∈ spans) :
    ∃ front back, s.Stands boundary t front back := by
  induction h with
  | last => cases member
  | @next boundary lead name back rest more closes unclosed absent _ ih =>
    rcases List.mem_cons.1 member with rfl | later
    · exact ⟨[], back, rfl, rfl, .inl rfl, closes, unclosed, absent⟩
    · obtain ⟨front, back', stands⟩ := ih later
      have offset : s.boundary =
          boundary + Text.byteSize (lead ++ '{' :: name ++ '}' :: front) := by
        have closing : '}'.utf8Size = 1 := rfl
        rw [stands.offset, Text.byteSize_append _ ('}' :: front), Text.byteSize_cons, closing]
        omega
      refine ⟨lead ++ '{' :: name ++ '}' :: front, back', ?_, offset, .inr ?_, stands.closes,
        stands.unclosed, stands.last⟩
      · rw [stands.whole]
        simp
      · rcases stands.ended with rfl | ⟨earlier, rfl⟩
        · exact ⟨lead ++ '{' :: name, by simp⟩
        · exact ⟨lead ++ '{' :: name ++ '}' :: earlier, by simp⟩

/-- A closing brace that ends no span, behind an odd number of opening ones, is an even one. -/
theorem Open.count_odd {front back : Text} (unclosed : Open (front ++ '}' :: back))
    (opened : front.count '{' % 2 = 1) : front.count '}' % 2 = 1 := by
  by_contra even
  refine unclosed front back rfl ⟨opened, ?_⟩
  rw [List.count_append, List.count_singleton_self]
  omega

/-- Of two closing braces behind the last opening one, one is odd and ends a span. -/
theorem Open.count_le_one {u v : Text} (unclosed : Open (u ++ v)) (opened : u.count '{' % 2 = 1)
    (absent : '{' ∉ v) : v.count '}' ≤ 1 := by
  by_contra many
  -- `a` and `b` are what stands before the first closing brace and between it and the second
  obtain ⟨a, more, rfl, first⟩ :=
    List.eq_append_cons_of_mem (List.count_pos_iff.1 (by omega : 0 < v.count '}'))
  have before : a.count '}' = 0 := List.count_eq_zero_of_not_mem first
  simp only [List.count_append, before, List.count_cons_self] at many
  obtain ⟨b, back, rfl, second⟩ :=
    List.eq_append_cons_of_mem (List.count_pos_iff.1 (by omega : 0 < more.count '}'))
  have between : b.count '}' = 0 := List.count_eq_zero_of_not_mem second
  have plain : (a ++ '}' :: b).count '{' = 0 :=
    List.count_eq_zero_of_not_mem fun inside =>
      absent (by simpa using List.mem_append_left ('}' :: back) inside)
  have atFirst : Open (u ++ a ++ '}' :: (b ++ '}' :: back)) := by simpa using unclosed
  have atSecond : Open (u ++ (a ++ '}' :: b) ++ '}' :: back) := by simpa using unclosed
  have here : (u ++ a).count '}' % 2 = 1 := by
    refine atFirst.count_odd ?_
    simp only [List.count_append] at plain ⊢
    omega
  have there : (u ++ (a ++ '}' :: b)).count '}' % 2 = 1 := by
    refine atSecond.count_odd ?_
    rw [List.count_append, plain]
    exact opened
  simp only [List.count_append, List.count_cons_self, before, between] at here there
  omega

theorem Span.Stands.count_le_one {front back : Text} (h : s.Stands boundary t front back) :
    s.name.count '}' ≤ 1 := by
  have odd : (s.lead ++ ['{']).count '{' % 2 = 1 := by
    have opening := h.closes.opening
    simp only [List.count_append, List.count_cons_self, List.count_nil,
      List.count_eq_zero_of_not_mem h.last] at opening ⊢
    exact opening
  refine Open.count_le_one ?_ odd h.last
  simpa using h.unclosed

theorem Span.fault?_adjacent {earlier : List Span} {position : Nat}
    (h : s.fault? earlier = some (.adjacent position)) :
    s.boundary ≠ 0 ∧ s.lead = [] ∧ position = s.boundary := by
  unfold Span.fault? at h
  split at h
  · next adjacent =>
    cases h
    exact ⟨adjacent.1, adjacent.2, by simp [Span.position, adjacent.2]⟩
  · split at h
    · cases h
    · cases h

theorem Span.firstFault?_adjacent {earlier : List Span} {position : Nat}
    (h : Span.firstFault? earlier spans = some (.adjacent position)) :
    ∃ s ∈ spans, s.boundary ≠ 0 ∧ s.lead = [] ∧ position = s.boundary := by
  induction spans generalizing earlier with
  | nil => cases h
  | cons s spans ih =>
    rw [Span.firstFault?] at h
    rcases Option.or_eq_some_iff.1 h with here | ⟨_, later⟩
    · exact ⟨s, List.mem_cons_self, Span.fault?_adjacent here⟩
    · obtain ⟨s', member, adjacent⟩ := ih later
      exact ⟨s', List.mem_cons_of_mem _ member, adjacent⟩

theorem reading_eq_ok {r : Template} (h : reading t spans rest = .ok r) :
    r.parts = spans.flatMap Span.parts ++ Part.spanned rest [] := by
  unfold reading at h
  split at h
  · cases h
  · cases h
    simp [Part.spanned]

theorem reading_adjacent {position : Nat} (h : reading t spans rest = .error (.adjacent position)) :
    ∃ s ∈ spans, s.boundary ≠ 0 ∧ s.lead = [] ∧ position = s.boundary := by
  unfold reading at h
  split at h
  · next fault =>
    cases h
    exact Span.firstFault?_adjacent fault
  · cases h

/-- A span behind another one starts with its brace if it has no literal. -/
theorem Span.Stands.behind {front back : Text} (h : s.Stands 0 t front back)
    (passed : s.boundary ≠ 0) (bare : s.lead = []) :
    ∃ earlier later, t = earlier ++ '}' :: '{' :: later ∧
      s.boundary = Text.byteSize (earlier ++ ['}']) := by
  rcases h.ended with rfl | ⟨earlier, rfl⟩
  · exact absurd h.offset passed
  · refine ⟨earlier, s.name ++ '}' :: back, ?_, by simpa using h.offset⟩
    simpa [bare] using h.whole

/-- Compiling loses nothing of a template but empty braces, and the parts it makes are well formed:
they have text, no placeholder follows another, and no name is used twice. Where it finds a
placeholder that follows another, it points at the opening brace. -/
theorem compile_lossless (t : Text) :
    (∀ r, compile t = .ok r →
      Part.Padded r.parts t ∧
      (∀ x, .literal x ∈ r.parts → x ≠ []) ∧
      (∀ name ∈ r.names, name ≠ [] ∧ '{' ∉ name ∧ name.count '}' ≤ 1) ∧
      r.parts.IsChain Part.Apart ∧
      r.names.Nodup ∧ r.checkNames .exact = .ok ()) ∧
    ∀ position, compile t = .error (.adjacent position) →
      ∃ front back, t = front ++ '}' :: '{' :: back ∧
        position = Text.byteSize (front ++ ['}']) := by
  by_cases empty : t = []
  · subst empty
    exact ⟨nofun, nofun⟩
  obtain ⟨spans, rest, h⟩ := spans_exist 0 t
  have compiled := compile_of_spans empty h
  constructor
  · intro r ok
    have regular := compile_regular ok
    have parts := reading_eq_ok (compiled.symm.trans ok)
    refine ⟨parts ▸ h.padded, ?_, fun name member => ?_, regular.apart, regular.distinct,
      checkNames_eq_ok_iff.2 (distinct_exact_iff.2 regular.distinct)⟩
    · rintro _ member rfl
      exact regular.literals member
    · rw [names, parts, Part.names_append, Part.names_spanned, if_pos rfl,
        List.append_nil] at member
      obtain ⟨named, s, among, rfl⟩ := Span.mem_names_iff.1 member
      obtain ⟨front, back, stands⟩ := h.stands among
      exact ⟨named, stands.last, stands.count_le_one⟩
  · intro position failed
    obtain ⟨s, among, passed, bare, rfl⟩ := reading_adjacent (compiled.symm.trans failed)
    obtain ⟨front, back, stands⟩ := h.stands among
    exact stands.behind passed bare

/-- The first closing brace stays in the literal, and the second disarms the third for the name. -/
theorem stray_braces_kept :
    compile "a\x7d\x7bb\x7dc\x7d-{}".toList = .ok ⟨"a\x7d\x7bb\x7dc\x7d-{}".toList,
      [.literal ['a', '}'], .placeholder ['b', '}', 'c'], .literal ['-']]⟩ ∧
    Part.Padded [.literal ['a', '}'], .placeholder ['b', '}', 'c'], .literal ['-']]
      "a\x7d\x7bb\x7dc\x7d-{}".toList ∧
    compile "{}{a}".toList = .error (.adjacent 2) ∧
    ∃ front back, "{}{a}".toList = front ++ '}' :: '{' :: back ∧
      2 = Text.byteSize (front ++ ['}']) := by
  have compiled : compile "a\x7d\x7bb\x7dc\x7d-{}".toList = .ok ⟨"a\x7d\x7bb\x7dc\x7d-{}".toList,
      [.literal ['a', '}'], .placeholder ['b', '}', 'c'], .literal ['-']]⟩ := by rfl
  have failed : compile "{}{a}".toList = .error (.adjacent 2) := by rfl
  exact ⟨compiled, ((compile_lossless _).1 _ compiled).1, failed, (compile_lossless _).2 2 failed⟩

end Template
end Phrasebook
