import Mathlib.Data.List.Basic
import Mathlib.Data.Nat.Find
import Phrasebook.Proofs.Template.Regular

/-! Compiling a template reads it as a list of spans, found by counting braces: a closing brace
ends a span if it is the odd one of its kind since the last boundary and an odd number of opening
braces stands before it. What is wrong with a template is what is wrong with its first bad span. -/
namespace Phrasebook.Template

/-- A closing brace after this text since a boundary ends a span. -/
structure Closes (front : Text) : Prop where
  opening : front.count '{' % 2 = 1
  closing : (front ++ ['}']).count '}' % 2 = 1

/-- No closing brace of the text since a boundary ends a span. -/
def Open (t : Text) : Prop := ∀ front back, t = front ++ '}' :: back → ¬ Closes front

/-- Text without braces. -/
structure Plain (t : Text) : Prop where
  opening : '{' ∉ t
  closing : '}' ∉ t

/-- Text without braces leaves the switches alone. -/
theorem Plain.closes_append_iff {p front : Text} (plain : Plain p) :
    Closes (p ++ front) ↔ Closes front := by
  have opening : (p ++ front).count '{' = front.count '{' := by
    rw [List.count_append, List.count_eq_zero_of_not_mem plain.opening, Nat.zero_add]
  have closing : (p ++ front ++ ['}']).count '}' = (front ++ ['}']).count '}' := by
    rw [List.append_assoc, List.count_append, List.count_eq_zero_of_not_mem plain.closing,
      Nat.zero_add]
  constructor
  · rintro ⟨odd, odd'⟩
    exact ⟨opening ▸ odd, closing ▸ odd'⟩
  · rintro ⟨odd, odd'⟩
    exact ⟨opening.symm ▸ odd, closing.symm ▸ odd'⟩

/-- A name in braces is a span. -/
theorem Plain.closes_opened {name : Text} (plain : Plain name) : Closes ('{' :: name) where
  opening := by simp [List.count_eq_zero_of_not_mem plain.opening]
  closing := by simp [List.count_append, List.count_eq_zero_of_not_mem plain.closing]

/-- A literal and the name after it; the boundary is the byte offset at which they start. -/
structure Span where
  boundary : Nat
  lead : Text
  name : Text
  deriving DecidableEq, Repr

/-- The spans of the text since a boundary, and the text after the last of them. The name of a
span starts after the last opening brace. -/
inductive Spans : Nat → Text → List Span → Text → Prop
  | last {boundary : Nat} {t : Text} : Open t → Spans boundary t [] t
  | next {boundary : Nat} {lead name back rest : Text} {more : List Span} :
      Closes (lead ++ '{' :: name) → Open (lead ++ '{' :: name) → '{' ∉ name →
      Spans (boundary + Text.byteSize (lead ++ '{' :: name) + 1) back more rest →
      Spans boundary (lead ++ '{' :: name ++ '}' :: back) (⟨boundary, lead, name⟩ :: more) rest

namespace Span

/-- The byte offset of the opening brace. -/
def position (s : Span) : Nat := s.boundary + Text.byteSize s.lead

def parts (s : Span) : List Part := Part.spanned s.lead s.name

/-- What is wrong with a span after earlier ones: it follows one without text between, or it
repeats a name. -/
def fault? (earlier : List Span) (s : Span) : Option TemplateError :=
  if s.boundary ≠ 0 ∧ s.lead = [] then some (.adjacent s.position)
  else if s.name ≠ [] ∧ ∃ p ∈ earlier, p.name = s.name then some (.repeated s.name)
  else none

def firstFault? (earlier : List Span) : List Span → Option TemplateError
  | [] => none
  | s :: more => (s.fault? earlier).or (firstFault? (earlier ++ [s]) more)

theorem mem_names_iff {spans : List Span} {name : Text} :
    name ∈ Part.names (spans.flatMap parts) ↔ name ≠ [] ∧ ∃ p ∈ spans, p.name = name := by
  induction spans with
  | nil => simp [Part.names]
  | cons s spans ih =>
    simp only [List.flatMap_cons, Part.names_append, List.mem_append, ih, parts,
      Part.names_spanned, List.exists_mem_cons_iff]
    by_cases empty : s.name = []
    · simp only [empty, if_true, List.not_mem_nil, false_or]
      constructor
      · rintro ⟨named, h⟩
        exact ⟨named, .inr h⟩
      · intro h
        obtain ⟨named, rfl | h⟩ := h
        · exact absurd rfl named
        · exact ⟨named, h⟩
    · simp only [empty, if_false, List.mem_singleton]
      constructor
      · intro h
        rcases h with rfl | ⟨named, h⟩
        · exact ⟨empty, .inl rfl⟩
        · exact ⟨named, .inr h⟩
      · intro h
        obtain ⟨named, same | h⟩ := h
        · exact .inl same.symm
        · exact .inr ⟨named, h⟩

end Span

/-- A template with these spans and this rest, as far as nothing is wrong with a span. -/
def reading (source : Text) (spans : List Span) (rest : Text) : Except TemplateError Template :=
  match Span.firstFault? [] spans with
  | some e => .error e
  | none =>
    .ok ⟨source, spans.flatMap Span.parts ++ if rest = [] then [] else [.literal rest]⟩

/-! There is exactly one list of spans for a text. -/

theorem last_split {c : Char} {t : Text} (h : c ∈ t) :
    ∃ before after, t = before ++ c :: after ∧ c ∉ after := by
  obtain ⟨front, back, cut, absent⟩ := List.eq_append_cons_of_mem (List.mem_reverse.2 h)
  refine ⟨back.reverse, front.reverse, ?_, by simpa using absent⟩
  rw [← List.reverse_reverse t, cut]
  simp

theorem last_split_unique {c : Char} {before after before' after' : Text}
    (h : before ++ c :: after = before' ++ c :: after') (absent : c ∉ after)
    (absent' : c ∉ after') : before = before' ∧ after = after' := by
  rcases List.append_eq_append_iff.1 h with ⟨gap, rfl, rest⟩ | ⟨gap, rfl, rest⟩
  · cases gap with
    | nil => simpa using rest
    | cons d gap => simp_all
  · cases gap with
    | nil => simpa using rest.symm
    | cons d gap => simp_all

theorem Closes.exists_name {front : Text} (h : Closes front) :
    ∃ lead name, front = lead ++ '{' :: name ∧ '{' ∉ name := by
  refine last_split (List.count_pos_iff.1 ?_)
  have := h.opening
  omega

/-- Either no brace ends a span, or there is a first that does. -/
theorem open_or_first (t : Text) :
    Open t ∨ ∃ front back, t = front ++ '}' :: back ∧ Closes front ∧ Open front := by
  classical
  by_cases h : ∃ n front back, t = front ++ '}' :: back ∧ Closes front ∧ front.length = n
  · obtain ⟨front, back, cut, closes, length⟩ := Nat.find_spec h
    refine .inr ⟨front, back, cut, closes, fun earlier between split closes' => ?_⟩
    have shorter : earlier.length < Nat.find h := by
      rw [← length, split]
      simp
    exact Nat.find_min h shorter
      ⟨earlier, between ++ '}' :: back, by simp [cut, split], closes', rfl⟩
  · exact .inl fun front back cut closes => h ⟨_, front, back, cut, closes, rfl⟩

theorem first_unique {front back front' back' : Text}
    (h : front ++ '}' :: back = front' ++ '}' :: back') (closes : Closes front)
    (closes' : Closes front') (before : Open front) (before' : Open front') :
    front = front' ∧ back = back' := by
  rcases List.append_eq_append_iff.1 h with ⟨gap, rfl, rest⟩ | ⟨gap, rfl, rest⟩
  · cases gap with
    | nil => simpa using rest
    | cons d gap =>
      obtain ⟨rfl, _⟩ := List.cons.inj rest
      exact absurd closes (before' _ gap rfl)
  · cases gap with
    | nil => simpa using rest.symm
    | cons d gap =>
      obtain ⟨rfl, _⟩ := List.cons.inj rest
      exact absurd closes' (before _ gap rfl)

/-- By induction on the length of the text. -/
theorem spans_exist (boundary : Nat) (t : Text) : ∃ spans rest, Spans boundary t spans rest := by
  induction h : t.length using Nat.strong_induction_on generalizing boundary t with
  | _ n ih =>
    rcases open_or_first t with unclosed | ⟨front, back, rfl, closes, unclosed⟩
    · exact ⟨[], t, .last unclosed⟩
    · obtain ⟨lead, name, rfl, absent⟩ := closes.exists_name
      have shorter : back.length < n := by simp [← h]; omega
      obtain ⟨more, rest, spans⟩ :=
        ih _ shorter (boundary + Text.byteSize (lead ++ '{' :: name) + 1) back rfl
      exact ⟨_, rest, .next closes unclosed absent spans⟩

theorem Spans.unique {boundary : Nat} {t rest rest' : Text} {spans spans' : List Span}
    (h : Spans boundary t spans rest) (k : Spans boundary t spans' rest') :
    spans = spans' ∧ rest = rest' := by
  induction h generalizing spans' with
  | last unclosed =>
    cases k with
    | last _ => exact ⟨rfl, rfl⟩
    | next closes _ _ _ => exact absurd closes (unclosed _ _ rfl)
  | next closes unclosed absent _ ih =>
    generalize whole : _ ++ '}' :: _ = t at k
    cases k with
    | last open' => exact absurd closes (open' _ _ whole.symm)
    | next closes' unclosed' absent' k =>
      obtain ⟨front, rfl⟩ := first_unique whole closes closes' unclosed unclosed'
      obtain ⟨rfl, rfl⟩ := last_split_unique front absent absent'
      obtain ⟨rfl, rfl⟩ := ih k
      exact ⟨rfl, rfl⟩

end Phrasebook.Template
