import Phrasebook.Demo.Controllers
import Phrasebook.Proofs.Template.Braces
import Phrasebook.Proofs.Template.Lossless
import Phrasebook.Proofs.Template.Prefix
import Phrasebook.Proofs.Text.Spaced

/-! Templates as listings show them. What is shown without parameters is a template again, of the
same placeholders, and shows as itself. Trimming, dropping and joining literals changes white space
only, and which spans a text has depends on nothing but its braces. -/
namespace Phrasebook

namespace Template

variable {t u x name : Text} {parts : List Part}

/-- Parts whose literals and names have their braces where a span needs them; `u` is the literal
text since the last placeholder. -/
inductive Bracketed : Text → List Part → Prop
  | nil {u : Text} : Open u → Bracketed u []
  | literal {u x : Text} {parts : List Part} :
      Bracketed (u ++ x) parts → Bracketed u (.literal x :: parts)
  | placeholder {u name : Text} {parts : List Part} :
      name ≠ [] → Closes (u ++ '{' :: name) → Open (u ++ '{' :: name) → '{' ∉ name →
      Bracketed [] parts → Bracketed u (.placeholder name :: parts)

theorem spanned_split (lead name : Text) :
    Part.spanned lead name = Part.spanned lead [] ++ Part.spanned [] name := by
  simp [Part.spanned]

theorem bracketed_lead (h : Bracketed (u ++ x) parts) : Bracketed u (Part.spanned x [] ++ parts) := by
  by_cases empty : x = []
  · simpa [Part.spanned, empty] using h
  · simpa [Part.spanned, empty] using Bracketed.literal h

/-- By induction on the spans: one without a name leaves its literal to the next, and a literal like
that is settled. -/
theorem Spans.bracketed {boundary : Nat} {spans : List Span} {rest : Text}
    (h : Spans boundary t spans rest) (settled : Settled u) :
    Bracketed u (spans.flatMap Span.parts ++ Part.spanned rest []) := by
  induction h generalizing u with
  | @last _ t unclosed =>
    rw [List.flatMap_nil, List.nil_append, ← List.append_nil (Part.spanned t [])]
    exact bracketed_lead (.nil (settled.open_append unclosed))
  | @next _ lead name back rest more closes unclosed absent _ ih =>
    rw [List.flatMap_cons, List.append_assoc, Span.parts, spanned_split, List.append_assoc]
    refine bracketed_lead ?_
    by_cases unnamed : name = []
    · subst unnamed
      exact ih (settled.append (settled_of_empty_name closes unclosed))
    · have named : Part.spanned [] name = [.placeholder name] := by simp [Part.spanned, unnamed]
      rw [named]
      refine .placeholder unnamed ?_ ?_ absent (ih settled_nil)
      · rw [List.append_assoc]
        exact settled.closes_append_iff.2 closes
      · rw [List.append_assoc]
        exact settled.open_append unclosed

theorem compile_bracketed {source : Text} {r : Template} (compiled : compile source = .ok r) :
    Bracketed [] r.parts := by
  obtain ⟨nonempty, _⟩ := compile_eq_ok_iff.1 compiled
  obtain ⟨spans, rest, h⟩ := spans_exist 0 source
  rw [reading_eq_ok ((compile_of_spans nonempty h).symm.trans compiled)]
  exact h.bracketed settled_nil

/-- What is shown of some parts without parameters, one by one. -/
def shownParts (parts : List Part) : List Text := parts.filterMap (Part.shown? fun _ => none)

/-- What is shown of a literal: nothing if it is white space. -/
def core (x : Text) : List Text := if Text.trim x = [] then [] else [Text.trim x]

@[simp] theorem shownParts_append (parts more : List Part) :
    shownParts (parts ++ more) = shownParts parts ++ shownParts more := List.filterMap_append

@[simp] theorem shownParts_nil : shownParts [] = [] := rfl

theorem shownParts_literal (x : Text) (parts : List Part) :
    shownParts (.literal x :: parts) = core x ++ shownParts parts := by
  by_cases blank : Text.trim x = []
  · simp [shownParts, core, Part.shown?, blank]
  · simp [shownParts, core, Part.shown?, blank]

theorem shownParts_placeholder (name : Text) (parts : List Part) :
    shownParts (.placeholder name :: parts) = (Part.placeholder name).written :: shownParts parts := rfl

theorem shownParts_lead (x : Text) : shownParts (Part.spanned x []) = core x := by
  by_cases empty : x = []
  · subst empty
    rfl
  · have one : Part.spanned x [] = [.literal x] := by simp [Part.spanned, empty]
    rw [one, shownParts_literal]
    exact List.append_nil _

theorem core_solid : ∀ y ∈ core x, Text.Solid y := by
  intro y member
  unfold core at member
  split at member
  · cases member
  · next shown =>
    cases List.mem_singleton.1 member
    exact Text.trim_solid shown

theorem braces_core (x : Text) : braces (Text.spaced (core x)) = braces x := by
  unfold core
  split
  · next blank => rw [← braces_trim x, blank]; rfl
  · rw [Text.spaced_cons, Text.spaced_nil, List.append_nil, ← braces_trim x]
    rfl

theorem spaced_core {texts : List Text} (solid : ∀ t ∈ texts, Text.Solid t) (tail : Text)
    (trailing : ∀ c ∈ tail, Text.isBlank c = true) :
    Text.spaced (core (Text.spaced texts ++ tail)) = Text.spaced texts := by
  by_cases none : texts = []
  · subst none
    have nothing : Text.trim tail = [] := Text.trim_eq_nil_iff.2 trailing
    simp [core, nothing]
  · have trimmed := Text.trim_spaced none solid trailing
    have shown := (Text.solid_joined none solid).nonempty
    rw [core, trimmed, if_neg shown, ← Text.cons_joined none]
    simp

/-- By induction on the parts. `held` is what has been shown since the last placeholder, which has
the braces of the literals `u`. -/
theorem Bracketed.spans_shown (h : Bracketed u parts) (boundary : Nat) (held : List Text)
    (same : braces (Text.spaced held) = braces u) (solid : ∀ t ∈ held, Text.Solid t) :
    ∃ spans rest, Spans boundary (Text.spaced (held ++ shownParts parts)) spans rest ∧
      spans.map Span.name = Part.names parts ∧
      (∀ s ∈ spans, s.lead ≠ [] ∧ s.name ≠ []) ∧
      Text.spaced (shownParts (spans.flatMap Span.parts ++ Part.spanned rest [])) =
        Text.spaced (held ++ shownParts parts) := by
  induction h generalizing boundary held with
  | nil unclosed =>
    refine ⟨[], Text.spaced held, ?_, rfl, by simp, ?_⟩
    · rw [shownParts_nil, List.append_nil]
      exact .last (open_congr same.symm unclosed)
    · have shown := spaced_core solid [] (by simp)
      rw [List.append_nil, ← shownParts_lead] at shown
      simpa using shown
  | @literal u x parts _ ih =>
    rw [shownParts_literal, ← List.append_assoc]
    refine ih boundary _ ?_ ?_
    · rw [Text.spaced_append, braces_append, braces_append, same, braces_core]
    · exact List.forall_mem_append.2 ⟨solid, core_solid⟩
  | @placeholder u name parts named closes unclosed absent _ ih =>
    have space : ∀ c ∈ [' '], Text.isBlank c = true := by simp [Text.isBlank_space]
    have front : braces (Text.spaced held ++ [' '] ++ '{' :: name) = braces (u ++ '{' :: name) := by
      rw [braces_append, braces_append, braces_blank space, List.append_nil, same, braces_append]
    have whole : Text.spaced (held ++ shownParts (.placeholder name :: parts)) =
        Text.spaced held ++ [' '] ++ '{' :: name ++ '}' :: Text.spaced (shownParts parts) := by
      simp [shownParts_placeholder, Part.written]
    have spanned : Part.spanned [] name = [.placeholder name] := by simp [Part.spanned, named]
    obtain ⟨spans, rest, later, names, leads, shown⟩ :=
      ih (boundary + Text.byteSize (Text.spaced held ++ [' '] ++ '{' :: name) + 1) [] rfl (by simp)
    refine ⟨⟨boundary, Text.spaced held ++ [' '], name⟩ :: spans, rest, ?_, congrArg (name :: ·) names,
      List.forall_mem_cons.2 ⟨⟨by simp, named⟩, leads⟩, ?_⟩
    · rw [whole]
      exact .next ((closes_congr front).2 closes) (open_congr front.symm unclosed) absent later
    · rw [List.flatMap_cons, Span.parts, spanned_split, spanned, List.append_assoc, List.append_assoc,
        shownParts_append, shownParts_lead, List.singleton_append, shownParts_placeholder,
        Text.spaced_append, Text.spaced_cons, spaced_core solid [' '] space, shown, whole]
      simp [Part.written]

theorem Span.firstFault?_eq_none {earlier spans : List Span}
    (leads : ∀ s ∈ spans, s.lead ≠ []) (distinct : ((earlier ++ spans).map Span.name).Nodup) :
    Span.firstFault? earlier spans = none := by
  induction spans generalizing earlier with
  | nil => rfl
  | cons s spans ih =>
    obtain ⟨here, later⟩ := List.forall_mem_cons.1 leads
    have fresh : ¬ ∃ p ∈ earlier, p.name = s.name := by
      rintro ⟨p, passed, same⟩
      rw [List.map_append, List.nodup_append] at distinct
      exact distinct.2.2 _ (List.mem_map_of_mem passed) _ List.mem_cons_self same
    have sound : s.fault? earlier = none := by simp [Span.fault?, here, fresh]
    rw [Span.firstFault?, sound, Option.none_or]
    exact ih later (by simpa using distinct)

theorem names_flatMap {spans : List Span} (named : ∀ s ∈ spans, s.name ≠ []) :
    Part.names (spans.flatMap Span.parts) = spans.map Span.name := by
  induction spans with
  | nil => rfl
  | cons s spans ih =>
    obtain ⟨here, later⟩ := List.forall_mem_cons.1 named
    rw [List.flatMap_cons, Part.names_append, Span.parts, Part.names_spanned, if_neg here, ih later]
    rfl

theorem reading_eq_of_sound {source rest : Text} {spans : List Span}
    (sound : Span.firstFault? [] spans = none) :
    reading source spans rest =
      .ok ⟨source, spans.flatMap Span.parts ++ Part.spanned rest []⟩ := by
  simp [reading, sound, Part.spanned]

variable {r : Template}

/-- With a blank before it the listing is a template in which every placeholder has a literal before
it, so that none directly follows another. -/
theorem compile_spaced (bracketed : Bracketed [] r.parts) (distinct : (Part.names r.parts).Nodup)
    (shown : shownParts r.parts ≠ []) :
    ∃ r', compile (Text.spaced (shownParts r.parts)) = .ok r' ∧
      Part.names r'.parts = Part.names r.parts ∧
      Text.spaced (shownParts r'.parts) = Text.spaced (shownParts r.parts) := by
  obtain ⟨spans, rest, h, names, leads, same⟩ :=
    bracketed.spans_shown 0 [] rfl nofun
  have sound : Span.firstFault? [] spans = none :=
    Span.firstFault?_eq_none (fun s member => (leads s member).1) (by simpa [names] using distinct)
  have nonempty : Text.spaced (shownParts r.parts) ≠ [] := by
    rw [← Text.cons_joined shown]
    exact List.cons_ne_nil _ _
  refine ⟨_, (compile_of_spans nonempty h).trans (reading_eq_of_sound sound), ?_, same⟩
  rw [Part.names_append, Part.names_spanned, if_pos rfl, List.append_nil,
    names_flatMap fun s member => (leads s member).2, names]

theorem written_solid (name : Text) : Text.Solid (Part.placeholder name).written := by
  refine ⟨List.cons_ne_nil _ _, fun c head => ?_, fun c last => ?_⟩
  · cases head
    decide
  · rw [Part.written, List.getLast?_concat] at last
    cases last
    decide

theorem shownParts_solid (parts : List Part) : ∀ y ∈ shownParts parts, Text.Solid y := by
  induction parts with
  | nil => exact nofun
  | cons p parts ih =>
    cases p with
    | literal x =>
      rw [shownParts_literal]
      exact List.forall_mem_append.2 ⟨core_solid, ih⟩
    | placeholder name =>
      rw [shownParts_placeholder]
      exact List.forall_mem_cons.2 ⟨written_solid name, ih⟩

theorem core_space_cons (x : Text) : core (' ' :: x) = core x := by
  rw [core, Text.trim_space_cons, core]

/-- The listing compiles with and without the blank, to parts that show the same. -/
theorem compile_joined (bracketed : Bracketed [] r.parts) (distinct : (Part.names r.parts).Nodup)
    (shown : shownParts r.parts ≠ []) :
    ∃ r', compile (Text.joined [' '] (shownParts r.parts)) = .ok r' ∧ r'.names = r.names ∧
      Text.spaced (shownParts r'.parts) = Text.spaced (shownParts r.parts) := by
  have plain : Plain [' '] := ⟨by decide, by decide⟩
  have visible := (Text.solid_joined shown (shownParts_solid r.parts)).nonempty
  obtain ⟨r', compiled, names, same⟩ := compile_spaced bracketed distinct shown
  rw [← Text.cons_joined shown, ← List.singleton_append] at compiled
  rcases compile_append plain visible with ⟨e, _, failed⟩ | ⟨lead, tail, bare, spaced⟩
  · cases failed.symm.trans compiled
  · cases spaced.symm.trans compiled
    refine ⟨_, bare, ?_, ?_⟩
    · rw [Template.names, Template.names, ← names, Part.names_append, Part.names_append,
        Part.names_spanned, Part.names_spanned]
    · rw [← same, shownParts_append, shownParts_append, shownParts_lead, shownParts_lead,
        List.singleton_append, core_space_cons]

theorem core_eq_nil_iff : core x = [] ↔ ∀ c ∈ x, Text.isBlank c = true := by
  rw [← Text.trim_eq_nil_iff, core]
  split <;> simp_all

theorem shownParts_eq_nil_iff : shownParts parts = [] ↔
    Part.names parts = [] ∧ ∀ x, .literal x ∈ parts → ∀ c ∈ x, Text.isBlank c = true := by
  induction parts with
  | nil => simp [Part.names]
  | cons p parts ih =>
    cases p with
    | literal x =>
      have names : Part.names (.literal x :: parts) = Part.names parts := rfl
      simp only [shownParts_literal, List.append_eq_nil_iff, core_eq_nil_iff, ih, names, List.mem_cons,
        Part.literal.injEq, forall_eq_or_imp]
      exact and_left_comm
    | placeholder name =>
      have names : Part.names (.placeholder name :: parts) = name :: Part.names parts := rfl
      simp [shownParts_placeholder, names]

/-- What a compiled template shows without parameters is a template of the same placeholders that
shows as itself, unless nothing is shown. That is so if there are no placeholders and all literals
are white space. White space never shows at the ends. -/
theorem compile_render {ι : Type} [HostTypes ι] {source : Text} (compiled : compile source = .ok r) :
    let undeclared := Command.kindName? ([] : List (Param ι))
    let shown := r.render undeclared
    (shown ≠ [] → ∃ r', compile shown = .ok r' ∧ r'.names = r.names ∧
      r'.render undeclared = shown) ∧
    (shown = [] ↔ r.names = [] ∧ ∀ x, .literal x ∈ r.parts → ∀ c ∈ x, Text.isBlank c = true) ∧
    (∀ c, shown.head? = some c → Text.isBlank c = false) ∧
    (∀ c, shown.getLast? = some c → Text.isBlank c = false) := by
  intro undeclared shown
  have listed (t : Template) : t.render undeclared = Text.joined [' '] (shownParts t.parts) := rfl
  by_cases nothing : shownParts r.parts = []
  · have empty : shown = [] := by simp [shown, listed, nothing, Text.joined]
    rw [empty]
    exact ⟨absurd rfl, iff_of_true rfl (shownParts_eq_nil_iff.1 nothing), by simp, by simp⟩
  · obtain ⟨visible, first, last⟩ := Text.solid_joined nothing (shownParts_solid r.parts)
    refine ⟨fun _ => ?_, iff_of_false visible (mt shownParts_eq_nil_iff.2 nothing), first, last⟩
    obtain ⟨r', again, names, same⟩ :=
      compile_joined (compile_bracketed compiled) (compile_regular compiled).distinct nothing
    refine ⟨r', again, names, ?_⟩
    rw [listed, Text.joined_eq_tail, same, ← Text.joined_eq_tail, ← listed]

/-- Stray braces in literals and in a name, and empty braces between two literals. -/
def strewn : Template where
  source := "\x7b\x7b a {} b\x7d\x7bc\x7dd\x7d  e ".toList
  parts := [.literal "\x7b\x7b a ".toList, .literal " b\x7d".toList, .placeholder "c\x7dd".toList,
    .literal "  e ".toList]

/-- The two literals show as one, and the stray braces around the name still end its span. -/
theorem strewn_shown :
    let undeclared := Command.kindName? ([] : List (Param Demo.HostType))
    let shown := "\x7b\x7b a b\x7d \x7bc\x7dd\x7d e".toList
    compile strewn.source = .ok strewn ∧ strewn.render undeclared = shown ∧
      ∃ r, compile shown = .ok r ∧ r.names = ["c\x7dd".toList] ∧ r.render undeclared = shown := by
  have compiled : compile strewn.source = .ok strewn := by rfl
  have shown : strewn.render (Command.kindName? ([] : List (Param Demo.HostType))) =
      "\x7b\x7b a b\x7d \x7bc\x7dd\x7d e".toList := by rfl
  have again := (compile_render (ι := Demo.HostType) compiled).1
  rw [shown] at again
  exact ⟨compiled, shown, again (by decide)⟩

end Template
end Phrasebook
