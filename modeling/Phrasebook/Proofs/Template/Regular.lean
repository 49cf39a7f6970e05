import Mathlib.Data.List.Chain
import Phrasebook.Template.Compile

/-! Compiled templates are regular: no part is without text, two placeholders never stand side
by side, and no name is used twice. The scan keeps its finished parts regular at every step. -/
namespace Phrasebook

namespace Part

/-- At most one of two neighbours is a placeholder. -/
def Apart (p q : Part) : Prop := p.name? = none ∨ q.name? = none

theorem not_apart_placeholders {a b : Text} : ¬ Apart (.placeholder a) (.placeholder b) := by
  simp [Apart, name?]

theorem not_isChain_placeholders {a b : Text} {parts : List Part} :
    ¬ (placeholder a :: placeholder b :: parts).IsChain Apart := fun apart =>
  not_apart_placeholders (List.isChain_cons_cons.1 apart).1

structure Regular (parts : List Part) : Prop where
  literals : .literal [] ∉ parts
  placeholders : .placeholder [] ∉ parts
  apart : parts.IsChain Apart
  distinct : (names parts).Nodup

/-- The parts of a span: its literal and its placeholder, each unless it is empty. -/
def spanned (lead name : Text) : List Part :=
  (if lead = [] then [] else [.literal lead]) ++ (if name = [] then [] else [.placeholder name])

@[simp] theorem names_append (ps qs : List Part) : names (ps ++ qs) = names ps ++ names qs := by
  simp [names]

@[simp] theorem names_spanned (lead name : Text) :
    names (spanned lead name) = if name = [] then [] else [name] := by
  by_cases hl : lead = [] <;> by_cases hn : name = [] <;>
    simp [spanned, names, List.filterMap_cons, name?, hl, hn]

theorem placeholder_mem_iff {name : Text} {parts : List Part} :
    .placeholder name ∈ parts ↔ name ∈ names parts := by
  simp only [names, List.mem_filterMap]
  constructor
  · intro h
    exact ⟨_, h, rfl⟩
  · rintro ⟨p, hp, named⟩
    cases p with
    | literal text => simp [name?] at named
    | placeholder other => cases named; exact hp

theorem regular_nil : Regular [] := ⟨by simp, by simp, by simp, by simp [names]⟩

theorem spanned_chain (lead name : Text) : (spanned lead name).IsChain Apart := by
  by_cases hl : lead = [] <;> by_cases hn : name = [] <;>
    simp [spanned, hl, hn, Apart, Part.name?]

/-- A span goes on a regular list if only the first may lack a literal. -/
theorem Regular.append_spanned {parts : List Part} {lead name : Text} (h : Regular parts)
    (first : lead = [] → parts = []) (fresh : name ∉ names parts) :
    Regular (parts ++ spanned lead name) := by
  refine ⟨?_, ?_, ?_, ?_⟩
  · have := h.literals
    by_cases hl : lead = [] <;> by_cases hn : name = [] <;> simp_all [spanned]
  · have := h.placeholders
    by_cases hl : lead = [] <;> by_cases hn : name = [] <;> simp_all [spanned]
  · refine List.isChain_append.2 ⟨h.apart, spanned_chain lead name, fun p hp q hq => ?_⟩
    by_cases hl : lead = []
    · simp [first hl] at hp
    · -- the span begins with its literal
      have : Part.literal lead = q := by simpa [spanned, hl] using hq
      exact .inr (this ▸ rfl)
  · rw [names_append, names_spanned]
    by_cases hn : name = []
    · simpa [hn] using h.distinct
    · have unused : ∀ a ∈ names parts, a ≠ name := fun a ha same => fresh (same ▸ ha)
      simpa [hn, List.nodup_append, h.distinct] using unused

end Part

namespace Template

namespace Scan

/-- The character is only added to the text since the boundary. -/
structure Adds (s : Scan) (c : Char) (next : Scan) : Prop where
  parts : next.parts = s.parts
  boundary : next.boundary = s.boundary
  rest : next.rest = s.rest ++ [c]

theorem flip_adds (s : Scan) : Adds s '{' s.flip := by
  unfold flip
  cases inside : s.inside with
  | none => exact ⟨rfl, rfl, by simp [rest, inside]⟩
  | some name => exact ⟨rfl, rfl, rfl⟩

theorem append_adds (s : Scan) (c : Char) (closed : Bool) :
    Adds s c { s.append c with closed := closed } := by
  unfold append
  cases inside : s.inside with
  | none => exact ⟨rfl, rfl, by simp [rest, inside]⟩
  | some name => exact ⟨rfl, rfl, by simp [rest, inside]⟩

theorem feed_cases {s next : Scan} {c : Char} (h : s.feed c = .ok next) :
    Adds s c next ∨
    ∃ name, c = '}' ∧ s.inside = some name ∧ s.closed = false ∧ s.finish name = .ok next := by
  unfold feed at h
  split at h
  · next opening =>
    subst opening
    cases h
    exact .inl s.flip_adds
  · split at h
    · next closing =>
      split at h
      · next name inside closed => exact .inr ⟨name, closing, inside, closed, h⟩
      · cases h
        exact .inl (s.append_adds c _)
    · cases h
      exact .inl (s.append_adds c (s.append c).closed)

theorem finish_eq_ok_iff {s next : Scan} {name : Text} :
    s.finish name = .ok next ↔
      (s.before = [] → s.boundary = 0) ∧ name ∉ Part.names s.parts ∧
      next = ⟨s.parts ++ Part.spanned s.before name,
        s.boundary + Text.byteSize s.before + Text.byteSize name + 2, [], none, false⟩ := by
  unfold finish
  by_cases adjacent : s.before = [] ∧ s.boundary ≠ 0
  · simp [adjacent]
  · by_cases used : name ∈ Part.names s.parts
    · simp [adjacent, used]
    · have apart : s.before = [] → s.boundary = 0 := by simpa using adjacent
      simp only [adjacent, used, if_false, Except.ok.injEq, not_false_eq_true, true_and,
        Part.spanned, List.append_assoc]
      exact ⟨fun same => ⟨apart, same.symm⟩, fun same => same.2.symm⟩

/-- What each step keeps, a run keeps. -/
theorem run_keeps {P : Scan → Prop} (step : ∀ {s c next}, P s → s.feed c = .ok next → P next)
    {s last : Scan} {t : Text} (start : P s) (h : s.run t = .ok last) : P last := by
  induction t generalizing s with
  | nil => cases h; exact start
  | cons c t ih =>
    unfold run at h
    split at h
    · cases h
    · next next fed => exact ih (step start fed) h

/-- The finished parts are regular, and there are none before the first boundary. -/
structure Sound (s : Scan) : Prop where
  regular : Part.Regular s.parts
  fresh : s.boundary = 0 → s.parts = []

theorem start_sound : Sound start := ⟨Part.regular_nil, fun _ => rfl⟩

theorem feed_sound {s next : Scan} {c : Char} (h : Sound s) (fed : s.feed c = .ok next) :
    Sound next := by
  rcases feed_cases fed with adds | ⟨name, _, _, _, finished⟩
  · exact ⟨adds.parts ▸ h.regular, fun zero => adds.parts ▸ h.fresh (adds.boundary ▸ zero)⟩
  · obtain ⟨first, fresh, rfl⟩ := finish_eq_ok_iff.1 finished
    exact ⟨h.regular.append_spanned (fun empty => h.fresh (first empty)) fresh,
      fun zero => absurd zero (by simp)⟩

end Scan

theorem compile_eq_ok_iff {source : Text} {r : Template} :
    compile source = .ok r ↔ source ≠ [] ∧ ∃ s, Scan.run .start source = .ok s ∧
      r = ⟨source, s.parts ++ Part.spanned s.rest []⟩ := by
  unfold compile
  by_cases empty : source = []
  · simp [empty]
  · cases scanned : Scan.run .start source with
    | error e => simp [empty]
    | ok s =>
      simp only [empty, if_false, Except.ok.injEq, Part.spanned, if_true, List.append_nil]
      constructor
      · intro same
        exact ⟨empty, s, rfl, same.symm⟩
      · rintro ⟨_, _, hs, same⟩
        cases hs
        exact same.symm

/-- Text after the last span adds a literal, which may follow anything. -/
theorem compile_regular {source : Text} {r : Template} (h : compile source = .ok r) :
    Part.Regular r.parts := by
  obtain ⟨_, s, scanned, rfl⟩ := compile_eq_ok_iff.1 h
  have sound := Scan.run_keeps Scan.feed_sound Scan.start_sound scanned
  by_cases rest : s.rest = []
  · simpa [rest, Part.spanned] using sound.regular
  · refine sound.regular.append_spanned (fun empty => absurd empty rest) fun unnamed => ?_
    exact sound.regular.placeholders (Part.placeholder_mem_iff.2 unnamed)

end Template
end Phrasebook
