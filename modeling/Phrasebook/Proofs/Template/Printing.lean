import Mathlib.Data.List.Induction
import Mathlib.Data.List.Nodup
import Phrasebook.Proofs.Template.Reading

/-! Templates that are written out from parts. If no placeholder directly follows another and no
name is used twice, compiling gives the parts back. Otherwise it finds the first placeholder that is
out of place. -/
namespace Phrasebook

namespace Part

def text : Part → Text
  | .literal text => text
  | .placeholder name => name

def written : Part → Text
  | .literal text => text
  | .placeholder name => '{' :: name ++ ['}']

/-- The template that has some parts, one after the other. -/
def print (parts : List Part) : Text := parts.flatMap written

/-- Every part has text, without braces, and no literal directly follows another. -/
structure Printable (parts : List Part) : Prop where
  texts : ∀ p ∈ parts, p.text ≠ [] ∧ Template.Plain p.text
  literals : parts.IsChain fun p q => p.name? ≠ none ∨ q.name? ≠ none

/-- No placeholder directly follows another, and no name is used twice. -/
structure Orderly (parts : List Part) : Prop where
  apart : parts.IsChain Apart
  distinct : (names parts).Nodup

/-- What comes next would directly follow a placeholder. -/
def EndsNamed (parts : List Part) : Prop := ∃ name, parts.getLast? = some (.placeholder name)

/-- The placeholder after some first parts is out of place, and those before it are not. -/
structure FirstOut (parts good : List Part) (name : Text) : Prop where
  here : ∃ later, parts = good ++ .placeholder name :: later
  orderly : Orderly good
  out : EndsNamed good ∨ name ∈ names good

variable {parts good : List Part} {name x : Text} {p : Part}

@[simp] theorem print_append (parts more : List Part) :
    print (parts ++ more) = print parts ++ print more := List.flatMap_append

@[simp] theorem print_singleton (p : Part) : print [p] = p.written := List.flatMap_singleton ..

theorem byteSize_written_placeholder (name : Text) :
    Text.byteSize (placeholder name).written = Text.byteSize name + 2 := by
  have opening : '{'.utf8Size = 1 := rfl
  have closing : '}'.utf8Size = 1 := rfl
  simp only [written, Text.byteSize_append, Text.byteSize_cons, Text.byteSize_nil, opening, closing]
  omega

theorem names_concat_placeholder (parts : List Part) (name : Text) :
    names (parts ++ [.placeholder name]) = names parts ++ [name] := by
  simp [names, name?]

theorem orderly_concat_literal_iff : Orderly (parts ++ [.literal x]) ↔ Orderly parts := by
  have same : names (parts ++ [.literal x]) = names parts := by simp [names, name?]
  constructor
  · rintro ⟨apart, distinct⟩
    exact ⟨apart.left_of_append, same ▸ distinct⟩
  · rintro ⟨apart, distinct⟩
    refine ⟨List.isChain_append.2 ⟨apart, .singleton _, fun p _ q hq => ?_⟩, same.symm ▸ distinct⟩
    cases Option.mem_some_iff.1 hq
    exact .inr rfl

theorem orderly_concat_placeholder_iff :
    Orderly (parts ++ [.placeholder name]) ↔
      Orderly parts ∧ ¬ EndsNamed parts ∧ name ∉ names parts := by
  constructor
  · rintro ⟨apart, distinct⟩
    rw [names_concat_placeholder, List.nodup_append] at distinct
    refine ⟨⟨apart.left_of_append, distinct.1⟩, ?_, fun used => ?_⟩
    · rintro ⟨other, last⟩
      exact not_apart_placeholders
        ((List.isChain_append.1 apart).2.2 _ last (.placeholder name) rfl)
    · exact distinct.2.2 name used name List.mem_cons_self rfl
  · rintro ⟨⟨apart, distinct⟩, free, fresh⟩
    refine ⟨List.isChain_append.2 ⟨apart, .singleton _, fun p hp _ _ => ?_⟩, ?_⟩
    · cases p with
      | literal text => exact .inl rfl
      | placeholder other => exact absurd ⟨other, hp⟩ free
    · rw [names_concat_placeholder, List.nodup_append]
      refine ⟨distinct, List.nodup_singleton name, ?_⟩
      rintro used member _ new rfl
      exact fresh (List.mem_singleton.1 new ▸ member)

theorem orderly_or_firstOut (parts : List Part) :
    Orderly parts ∨ ∃ good name, FirstOut parts good name := by
  induction parts using List.reverseRecOn with
  | nil => exact .inl ⟨.nil, List.nodup_nil⟩
  | append_singleton parts p ih =>
    rcases ih with orderly | ⟨good, name, ⟨later, rfl⟩, orderly, out⟩
    · cases p with
      | literal text => exact .inl (orderly_concat_literal_iff.2 orderly)
      | placeholder name =>
        by_cases out : EndsNamed parts ∨ name ∈ names parts
        · exact .inr ⟨parts, name, ⟨[], rfl⟩, orderly, out⟩
        · exact .inl (orderly_concat_placeholder_iff.2 ⟨orderly, not_or.1 out⟩)
    · exact .inr ⟨good, name, ⟨later ++ [p], by simp⟩, orderly, out⟩

theorem Printable.left {more : List Part} (h : Printable (parts ++ more)) : Printable parts :=
  ⟨fun p hp => h.texts p (List.mem_append_left more hp), h.literals.left_of_append⟩

/-- A literal does not directly follow another. -/
theorem Printable.not_literal (h : Printable (parts ++ [.literal x])) (y : Text) :
    parts.getLast? ≠ some (.literal y) := by
  intro last
  have := (List.isChain_append.1 h.literals).2.2 _ last (.literal x) rfl
  simp [name?] at this

end Part

namespace Template

namespace Scan

variable {parts : List Part} {s next : Scan} {name x : Text}

theorem finish_adjacent (empty : s.before = []) (passed : s.boundary ≠ 0) (name : Text) :
    s.finish name = .error (.adjacent s.boundary) := by
  simp [finish, empty, passed]

theorem finish_repeated (apart : s.before = [] → s.boundary = 0) (used : name ∈ Part.names s.parts) :
    s.finish name = .error (.repeated name) := by
  have near : ¬ (s.before = [] ∧ s.boundary ≠ 0) := by simpa using apart
  simp [finish, near, used]

theorem run_append_error {s : Scan} {t v : Text} {e : TemplateError} (h : s.run t = .error e) :
    s.run (t ++ v) = .error e := by
  induction t generalizing s with
  | nil => cases h
  | cons c t ih =>
    rw [List.cons_append, run]
    rw [run] at h
    cases fed : s.feed c with
    | error e' => simpa [fed] using h
    | ok next => exact ih (by simpa [fed] using h)

/-- The scan has passed some parts that were written out. A literal at their end is still open. -/
structure Passed (parts : List Part) (s : Scan) : Prop where
  tracks : Tracks s.parts s.boundary s.rest s
  plain : Plain s.rest
  held : s.parts ++ Part.spanned s.rest [] = parts
  offset : s.boundary + Text.byteSize s.rest = Text.byteSize (Part.print parts)
  ended : ∀ x, s.parts.getLast? ≠ some (.literal x)

theorem Tracks.passed {fin : List Part} {boundary : Nat} {u : Text} (h : Tracks fin boundary u s)
    (plain : Plain u)
    (offset : boundary + Text.byteSize u = Text.byteSize (Part.print (fin ++ Part.spanned u [])))
    (ended : ∀ x, fin.getLast? ≠ some (.literal x)) : Passed (fin ++ Part.spanned u []) s := by
  obtain ⟨rfl, rfl, rfl⟩ := And.intro h.parts (And.intro h.boundary h.rest)
  exact ⟨h, plain, rfl, offset, ended⟩

theorem passed_boundary (ended : ∀ x, parts.getLast? ≠ some (.literal x)) :
    Passed parts ⟨parts, Text.byteSize (Part.print parts), [], none, false⟩ :=
  ⟨.fresh _ _, ⟨nofun, nofun⟩, List.append_nil parts, Nat.add_zero _, ended⟩

theorem Passed.names_eq (h : Passed parts s) : Part.names s.parts = Part.names parts := by
  rw [← h.held, Part.names_append, Part.names_spanned, if_pos rfl, List.append_nil]

theorem Passed.rest_eq_nil (h : Passed parts s) (ended : ∀ x, parts.getLast? ≠ some (.literal x)) :
    s.rest = [] := by
  by_contra pending
  refine ended s.rest ?_
  rw [← h.held]
  simp [Part.spanned, pending]

theorem Passed.parts_eq (h : Passed parts s) (empty : s.rest = []) : s.parts = parts := by
  simpa [Part.spanned, empty] using h.held

theorem Passed.boundary_eq (h : Passed parts s) (empty : s.rest = []) :
    s.boundary = Text.byteSize (Part.print parts) := by
  simpa [empty] using h.offset

/-- A placeholder comes directly after another exactly if no text is open at a boundary. -/
theorem Passed.endsNamed_iff (h : Passed parts s) :
    Part.EndsNamed parts ↔ s.rest = [] ∧ s.boundary ≠ 0 := by
  constructor
  · rintro ⟨name, last⟩
    have empty := h.rest_eq_nil fun x other => by simp [last] at other
    obtain ⟨init, rfl⟩ := List.getLast?_eq_some_iff.1 last
    refine ⟨empty, ?_⟩
    rw [h.boundary_eq empty, Part.print_append, Text.byteSize_append, Part.print_singleton,
      Part.byteSize_written_placeholder]
    omega
  · rintro ⟨empty, passed⟩
    cases last : parts.getLast? with
    | none =>
      cases List.getLast?_eq_none_iff.1 last
      exact absurd (h.boundary_eq empty) passed
    | some p =>
      cases p with
      | literal x => exact absurd (h.parts_eq empty ▸ last) (h.ended x)
      | placeholder name => exact ⟨name, last⟩

theorem Passed.literal (h : Passed parts s) (ended : ∀ x, parts.getLast? ≠ some (.literal x))
    (text : x ≠ []) (plain : Plain x) :
    ∃ next, s.run x = .ok next ∧ Passed (parts ++ [.literal x]) next := by
  have empty := h.rest_eq_nil ended
  have same := h.parts_eq empty
  obtain ⟨next, passed, tracks⟩ := run_unclosed h.tracks plain.closing
  rw [empty, List.nil_append, same] at tracks
  have here : parts ++ Part.spanned x [] = parts ++ [.literal x] := by simp [Part.spanned, text]
  refine ⟨next, passed, here ▸ tracks.passed plain ?_ (same ▸ h.ended)⟩
  rw [here, Part.print_append, Text.byteSize_append, Part.print_singleton, Part.written,
    h.boundary_eq empty]

/-- The closing brace of a placeholder ends a span whose literal is the open text. -/
theorem Passed.run_placeholder (h : Passed parts s) (plain : Plain name) :
    ∃ t : Scan, t.parts = s.parts ∧ t.boundary = s.boundary ∧ t.before = s.rest ∧
      s.run (Part.placeholder name).written = t.finish name := by
  have closes : Closes (s.rest ++ '{' :: name) := h.plain.closes_append_iff.2 plain.closes_opened
  have absent : '}' ∉ '{' :: name := by simp [plain.closing]
  obtain ⟨t, passed, tracks⟩ := run_unclosed h.tracks absent
  obtain ⟨before, fed⟩ := feed_closes tracks plain.opening closes
  refine ⟨t, tracks.parts, tracks.boundary, before, ?_⟩
  rw [Part.written, run_append passed, run, fed]
  cases t.finish name <;> rfl

theorem Passed.placeholder (h : Passed parts s) (named : name ≠ []) (plain : Plain name)
    (apart : ¬ Part.EndsNamed parts) (fresh : name ∉ Part.names parts) :
    ∃ next, s.run (Part.placeholder name).written = .ok next ∧
      Passed (parts ++ [.placeholder name]) next := by
  obtain ⟨t, sameParts, sameBoundary, before, ran⟩ := h.run_placeholder plain
  have near : t.before = [] → t.boundary = 0 := by
    rw [before, sameBoundary]
    simpa [h.endsNamed_iff] using apart
  have finished := finish_eq_ok_iff.2 ⟨near, sameParts ▸ h.names_eq ▸ fresh, rfl⟩
  have here : t.parts ++ Part.spanned t.before name = parts ++ [.placeholder name] := by
    rw [sameParts, before, ← h.held]
    simp [Part.spanned, named]
  have offset : t.boundary + Text.byteSize t.before + Text.byteSize name + 2 =
      Text.byteSize (Part.print (parts ++ [.placeholder name])) := by
    rw [sameBoundary, before, h.offset, Part.print_append, Text.byteSize_append,
      Part.print_singleton, Part.byteSize_written_placeholder, Nat.add_assoc]
  refine ⟨_, ran.trans finished, ?_⟩
  rw [here, offset]
  exact passed_boundary fun x last => by simp at last

/-- By induction on the parts, from the end: what the scan holds after some parts tells it what to
do with the next. -/
theorem run_print (printable : Part.Printable parts) (orderly : Part.Orderly parts) :
    ∃ s, run start (Part.print parts) = .ok s ∧ Passed parts s := by
  induction parts using List.reverseRecOn with
  | nil => exact ⟨start, rfl, passed_boundary nofun⟩
  | append_singleton parts p ih =>
    obtain ⟨text, plain⟩ := printable.texts p (by simp)
    rw [Part.print_append, Part.print_singleton]
    cases p with
    | literal x =>
      obtain ⟨s, ran, passed⟩ := ih printable.left (Part.orderly_concat_literal_iff.1 orderly)
      rw [run_append ran]
      exact passed.literal printable.not_literal text plain
    | placeholder name =>
      obtain ⟨orderly, apart, fresh⟩ := Part.orderly_concat_placeholder_iff.1 orderly
      obtain ⟨s, ran, passed⟩ := ih printable.left orderly
      rw [run_append ran]
      exact passed.placeholder text plain apart fresh

/-- The scan ends at the first placeholder that is out of place. -/
theorem run_print_error {good : List Part} (printable : Part.Printable parts)
    (first : Part.FirstOut parts good name) :
    (Part.EndsNamed good →
      run start (Part.print parts) = .error (.adjacent (Text.byteSize (Part.print good)))) ∧
    (¬ Part.EndsNamed good → run start (Part.print parts) = .error (.repeated name)) := by
  obtain ⟨⟨later, rfl⟩, orderly, out⟩ := first
  obtain ⟨_, plain⟩ := printable.texts (.placeholder name) (by simp)
  obtain ⟨s, ran, passed⟩ := run_print printable.left orderly
  obtain ⟨t, sameParts, sameBoundary, before, closing⟩ := passed.run_placeholder plain
  have split : Part.print (good ++ .placeholder name :: later) =
      Part.print good ++ ((Part.placeholder name).written ++ Part.print later) := by
    rw [Part.print_append]
    rfl
  rw [split, run_append ran]
  constructor
  · intro named
    obtain ⟨empty, behind⟩ := passed.endsNamed_iff.1 named
    rw [← passed.boundary_eq empty, ← sameBoundary]
    exact run_append_error
      (closing.trans (finish_adjacent (before.trans empty) (sameBoundary ▸ behind) name))
  · intro apart
    have used : name ∈ Part.names t.parts := by
      rw [sameParts, passed.names_eq]
      exact out.resolve_left apart
    refine run_append_error (closing.trans (finish_repeated ?_ used))
    rw [before, sameBoundary]
    simpa [passed.endsNamed_iff] using apart

end Scan

theorem print_ne_nil {parts : List Part} (nonempty : parts ≠ [])
    (printable : Part.Printable parts) : Part.print parts ≠ [] := by
  obtain ⟨p, more, rfl⟩ := List.exists_cons_of_ne_nil nonempty
  obtain ⟨text, _⟩ := printable.texts p List.mem_cons_self
  cases p with
  | literal x => exact List.append_ne_nil_of_left_ne_nil text _
  | placeholder name => exact List.cons_ne_nil _ _

/-- Compiling what was written out from parts gives the parts back, unless a placeholder is out of
place. The first such placeholder is reported by the offset of its brace if it directly follows
another, be that the first of the template, and by its name otherwise. -/
theorem compile_print {parts : List Part} (nonempty : parts ≠ [])
    (printable : Part.Printable parts) :
    (Part.Orderly parts → ∃ r, compile (Part.print parts) = .ok r ∧ r.parts = parts ∧
      r.source = Part.print parts ∧ r.names = parts.filterMap Part.name?) ∧
    (∀ good name, Part.FirstOut parts good name →
      (Part.EndsNamed good → compile (Part.print parts) =
        .error (.adjacent (Text.byteSize (Part.print good)))) ∧
      (¬ Part.EndsNamed good → compile (Part.print parts) = .error (.repeated name))) ∧
    (Part.Orderly parts ∨ ∃ good name, Part.FirstOut parts good name) := by
  have source := print_ne_nil nonempty printable
  refine ⟨fun orderly => ?_, fun good name first => ?_, Part.orderly_or_firstOut parts⟩
  · obtain ⟨s, ran, passed⟩ := Scan.run_print printable orderly
    have compiled := compile_eq_ok_iff.2 ⟨source, s, ran, rfl⟩
    rw [passed.held] at compiled
    exact ⟨_, compiled, rfl, rfl, rfl⟩
  · obtain ⟨adjacent, repeated⟩ := Scan.run_print_error printable first
    constructor
    · intro named
      simp [compile, source, adjacent named]
    · intro apart
      simp [compile, source, repeated apart]

/-- A placeholder that opens the template counts as one before the next. -/
theorem opening_placeholder_adjacent :
    [Part.placeholder ['ä'], .placeholder ['b'], .placeholder ['ä']] ≠ [] ∧
    Part.Printable [.placeholder ['ä'], .placeholder ['b'], .placeholder ['ä']] ∧
    Part.FirstOut [.placeholder ['ä'], .placeholder ['b'], .placeholder ['ä']]
      [.placeholder ['ä']] ['b'] ∧
    compile (Part.print [.placeholder ['ä'], .placeholder ['b'], .placeholder ['ä']]) =
      .error (.adjacent 4) := by
  have printable :
      Part.Printable [.placeholder ['ä'], .placeholder ['b'], .placeholder ['ä']] := by
    refine ⟨fun p hp => ?_, by simp [Part.name?]⟩
    have known : p = .placeholder ['ä'] ∨ p = .placeholder ['b'] := by
      simp only [List.mem_cons, List.not_mem_nil, or_false] at hp
      rcases hp with rfl | rfl | rfl
      · exact .inl rfl
      · exact .inr rfl
      · exact .inl rfl
    rcases known with rfl | rfl
    · exact ⟨by decide, by decide, by decide⟩
    · exact ⟨by decide, by decide, by decide⟩
  have first : Part.FirstOut [.placeholder ['ä'], .placeholder ['b'], .placeholder ['ä']]
      [.placeholder ['ä']] ['b'] :=
    ⟨⟨_, rfl⟩, ⟨.singleton _, List.nodup_singleton _⟩, .inl ⟨_, rfl⟩⟩
  have nonempty : [Part.placeholder ['ä'], .placeholder ['b'], .placeholder ['ä']] ≠ [] := by simp
  exact ⟨nonempty, printable, first,
    ((compile_print nonempty printable).2.1 _ _ first).1 ⟨_, rfl⟩⟩

end Template
end Phrasebook
