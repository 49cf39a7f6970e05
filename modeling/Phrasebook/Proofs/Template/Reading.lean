import Phrasebook.Proofs.Template.Spans

/-! The scan agrees with the reading by spans. Its two switches are the parities of the braces
since the boundary, and an armed opening brace is always the last one. -/
namespace Phrasebook.Template

namespace Scan

variable {parts : List Part} {boundary : Nat} {u : Text} {s : Scan} {c : Char}

/-- The state of a scan that has passed the text `u` since its last boundary. -/
structure Tracks (parts : List Part) (boundary : Nat) (u : Text) (s : Scan) : Prop where
  parts : s.parts = parts
  boundary : s.boundary = boundary
  rest : s.rest = u
  armed : s.inside.isSome = decide (u.count '{' % 2 = 1)
  last : ∀ name, s.inside = some name → '{' ∉ name
  closed : s.closed = decide (u.count '}' % 2 = 1)

theorem odd_succ (n : Nat) : decide ((n + 1) % 2 = 1) = !decide (n % 2 = 1) := by
  by_cases h : n % 2 = 1
  · have : ¬ (n + 1) % 2 = 1 := by omega
    simp [h, this]
  · have : (n + 1) % 2 = 1 := by omega
    simp [h, this]

theorem Tracks.fresh (parts : List Part) (boundary : Nat) :
    Tracks parts boundary [] ⟨parts, boundary, [], none, false⟩ :=
  ⟨rfl, rfl, rfl, rfl, by simp, rfl⟩

theorem flip_armed (s : Scan) : s.flip.inside.isSome = !s.inside.isSome := by
  unfold flip
  cases inside : s.inside <;> rfl

theorem flip_inside {name : Text} (h : s.flip.inside = some name) : name = [] := by
  unfold flip at h
  cases inside : s.inside with
  | none => simpa [inside, eq_comm] using h
  | some _ => simp [inside] at h

theorem append_armed (s : Scan) (c : Char) : (s.append c).inside.isSome = s.inside.isSome := by
  unfold append
  cases inside : s.inside <;> rfl

theorem append_inside {longer : Text} (h : (s.append c).inside = some longer) :
    ∃ name, s.inside = some name ∧ longer = name ++ [c] := by
  unfold append at h
  cases inside : s.inside with
  | none => simp [inside] at h
  | some name => exact ⟨name, rfl, by simpa [inside, eq_comm] using h⟩

theorem Tracks.flip (h : Tracks parts boundary u s) :
    Tracks parts boundary (u ++ ['{']) s.flip := by
  obtain ⟨sameParts, sameBoundary, rest⟩ := s.flip_adds
  have opening : (u ++ ['{']).count '{' = u.count '{' + 1 := by simp
  have closing : (u ++ ['{']).count '}' = u.count '}' := by simp
  have closed : s.flip.closed = s.closed := by unfold Scan.flip; split <;> rfl
  refine ⟨sameParts.trans h.parts, sameBoundary.trans h.boundary, h.rest ▸ rest, ?_, ?_, ?_⟩
  · rw [flip_armed, h.armed, opening, odd_succ]
  · intro name inside
    simp [flip_inside inside]
  · rw [closed, h.closed, closing]

/-- Any other character joins the text, and a closing brace turns its switch. -/
theorem Tracks.append (h : Tracks parts boundary u s) (other : c ≠ '{') :
    Tracks parts boundary (u ++ [c])
      { s.append c with closed := if c = '}' then !s.closed else s.closed } := by
  obtain ⟨sameParts, sameBoundary, rest⟩ := s.append_adds c (if c = '}' then !s.closed else s.closed)
  have opening : (u ++ [c]).count '{' = u.count '{' := by simp [other]
  refine ⟨sameParts.trans h.parts, sameBoundary.trans h.boundary, h.rest ▸ rest, ?_, ?_, ?_⟩
  · rw [opening, ← h.armed, append_armed]
  · intro longer inside
    obtain ⟨name, before, rfl⟩ := append_inside inside
    simp [h.last name before, Ne.symm other]
  · by_cases closing : c = '}'
    · subst closing
      rw [List.count_append, List.count_singleton_self, odd_succ, ← h.closed]
      rfl
    · simp [closing, h.closed]

/-- The switches tell whether a closing brace ends a span. -/
theorem Tracks.closes_iff (h : Tracks parts boundary u s) :
    Closes u ↔ s.inside.isSome = true ∧ s.closed = false := by
  rw [h.armed, h.closed, decide_eq_true_eq, decide_eq_false_iff_not]
  constructor
  · rintro ⟨opening, closing⟩
    rw [List.count_append, List.count_singleton_self] at closing
    exact ⟨opening, by omega⟩
  · rintro ⟨opening, closing⟩
    refine ⟨opening, ?_⟩
    rw [List.count_append, List.count_singleton_self]
    omega

theorem feed_tracks (h : Tracks parts boundary u s) (unclosed : c = '}' → ¬ Closes u) :
    ∃ next, s.feed c = .ok next ∧ Tracks parts boundary (u ++ [c]) next := by
  by_cases opening : c = '{'
  · subst opening
    exact ⟨s.flip, by simp [feed], h.flip⟩
  · refine ⟨_, ?_, h.append opening⟩
    by_cases closing : c = '}'
    · subst closing
      have stays := mt h.closes_iff.2 (unclosed rfl)
      unfold feed
      cases inside : s.inside <;> cases closed : s.closed <;> simp_all
    · have same : (s.append c).closed = s.closed := by unfold append; split <;> rfl
      simp [feed, opening, closing, ← same]

theorem feed_closes {lead name : Text} (h : Tracks parts boundary (lead ++ '{' :: name) s)
    (absent : '{' ∉ name) (closes : Closes (lead ++ '{' :: name)) :
    s.before = lead ∧ s.feed '}' = s.finish name := by
  obtain ⟨armed, closed⟩ := h.closes_iff.1 closes
  obtain ⟨inner, inside⟩ := Option.isSome_iff_exists.1 armed
  have rest : s.before ++ '{' :: inner = lead ++ '{' :: name := by
    rw [← h.rest]
    simp [Scan.rest, inside]
  obtain ⟨before, rfl⟩ := last_split_unique rest (h.last inner inside) absent
  exact ⟨before, by simp [feed, inside, closed]⟩

theorem run_append {s middle : Scan} {t v : Text} (h : s.run t = .ok middle) :
    s.run (t ++ v) = middle.run v := by
  induction t generalizing s with
  | nil => cases h; rfl
  | cons c t ih =>
    unfold run at h
    split at h
    · cases h
    · next next fed =>
      rw [List.cons_append, run, fed]
      exact ih h

/-- Text in which no brace ends a span is passed as a whole. -/
theorem run_tracks {v : Text} (h : Tracks parts boundary u s)
    (unclosed : ∀ front back, v = front ++ '}' :: back → ¬ Closes (u ++ front)) :
    ∃ last, s.run v = .ok last ∧ Tracks parts boundary (u ++ v) last := by
  induction v generalizing s u with
  | nil => exact ⟨s, rfl, by simpa using h⟩
  | cons c v ih =>
    have here : c = '}' → ¬ Closes u := by
      rintro rfl
      simpa using unclosed [] v rfl
    obtain ⟨next, fed, tracks⟩ := feed_tracks h here
    have later : ∀ front back, v = front ++ '}' :: back → ¬ Closes (u ++ [c] ++ front) := by
      intro front back split
      simpa using unclosed (c :: front) back (by rw [split]; rfl)
    obtain ⟨last, passed, tracks⟩ := ih tracks later
    exact ⟨last, by rw [run, fed]; exact passed, by simpa using tracks⟩

theorem run_unclosed {v : Text} (h : Tracks parts boundary u s) (absent : '}' ∉ v) :
    ∃ last, s.run v = .ok last ∧ Tracks parts boundary (u ++ v) last :=
  run_tracks h fun front back split => absurd (split ▸ by simp) absent

/-- Finishing a span finds the same fault as looking at the earlier spans. -/
theorem finish_eq (earlier : List Span) (lead name : Text)
    (hparts : s.parts = earlier.flatMap Span.parts) (hboundary : s.boundary = boundary)
    (hbefore : s.before = lead) :
    s.finish name = match Span.fault? earlier ⟨boundary, lead, name⟩ with
      | some e => .error e
      | none => .ok ⟨(earlier ++ [(⟨boundary, lead, name⟩ : Span)]).flatMap Span.parts,
          boundary + Text.byteSize (lead ++ '{' :: name) + 1, [], none, false⟩ := by
  subst hboundary hbefore
  have again : name ∈ Part.names s.parts ↔ name ≠ [] ∧ ∃ p ∈ earlier, p.name = name := by
    rw [hparts]
    exact Span.mem_names_iff
  simp only [finish, Span.fault?]
  by_cases adjacent : s.boundary ≠ 0 ∧ s.before = []
  · rw [if_pos adjacent, if_pos adjacent.symm]
    rfl
  · have apart : ¬ (s.before = [] ∧ s.boundary ≠ 0) := fun h => adjacent h.symm
    by_cases used : name ≠ [] ∧ ∃ p ∈ earlier, p.name = name
    · rw [if_neg adjacent, if_neg apart, if_pos used, if_pos (again.2 used)]
    · have size : '{'.utf8Size = 1 := rfl
      rw [if_neg adjacent, if_neg apart, if_neg used, if_neg (mt again.1 used)]
      simp only [hparts, List.flatMap_append, List.flatMap_singleton, Span.parts, Part.spanned,
        List.append_assoc, Text.byteSize_append, Text.byteSize_cons, size, Except.ok.injEq,
        Scan.mk.injEq, true_and, and_true]
      omega

end Scan

/-- By induction on the spans: each is passed up to its closing brace and then finished. -/
theorem run_spans {boundary : Nat} {t rest : Text} {spans : List Span} (earlier : List Span)
    (h : Spans boundary t spans rest) :
    match Span.firstFault? earlier spans with
    | some e => Scan.run ⟨earlier.flatMap Span.parts, boundary, [], none, false⟩ t = .error e
    | none => ∃ last,
        Scan.run ⟨earlier.flatMap Span.parts, boundary, [], none, false⟩ t = .ok last ∧
          last.parts = (earlier ++ spans).flatMap Span.parts ∧ last.rest = rest := by
  induction h generalizing earlier with
  | @last boundary t unclosed =>
    obtain ⟨last, passed, tracks⟩ :=
      Scan.run_tracks (Scan.Tracks.fresh (earlier.flatMap Span.parts) boundary) unclosed
    exact ⟨last, passed, by simpa using tracks.parts, tracks.rest⟩
  | @next boundary lead name back rest more closes unclosed absent _ ih =>
    obtain ⟨middle, passed, tracks⟩ :=
      Scan.run_tracks (Scan.Tracks.fresh (earlier.flatMap Span.parts) boundary) unclosed
    obtain ⟨before, fed⟩ := Scan.feed_closes tracks absent closes
    have finished := Scan.finish_eq earlier lead name tracks.parts tracks.boundary before
    rw [Scan.run_append passed, Scan.run, fed, finished, Span.firstFault?]
    cases fault : Span.fault? earlier ⟨boundary, lead, name⟩ with
    | some e => rfl
    | none =>
      have later := ih (earlier ++ [⟨boundary, lead, name⟩])
      rw [List.append_assoc, List.singleton_append] at later
      exact later

theorem compile_of_spans {t rest : Text} {spans : List Span} (nonempty : t ≠ [])
    (h : Spans 0 t spans rest) : compile t = reading t spans rest := by
  have scanned := run_spans [] h
  unfold compile reading
  cases fault : Span.firstFault? [] spans with
  | some e =>
    simp only [fault, List.flatMap_nil] at scanned
    simp [nonempty, Scan.start, scanned]
  | none =>
    simp only [fault, List.flatMap_nil, List.nil_append] at scanned
    obtain ⟨last, scanned, parts, rfl⟩ := scanned
    simp [nonempty, Scan.start, scanned, parts]

/-- Compiling a template is reading its spans; nothing else can be read from it. -/
theorem compile_eq_reading (t : Text) :
    ∃ spans rest, Spans 0 t spans rest ∧
      (∀ spans' rest', Spans 0 t spans' rest' → spans' = spans ∧ rest' = rest) ∧
      compile t = if t = [] then .error .empty else reading t spans rest := by
  obtain ⟨spans, rest, h⟩ := spans_exist 0 t
  refine ⟨spans, rest, h, fun _ _ k => k.unique h, ?_⟩
  by_cases empty : t = []
  · simp [compile, empty]
  · rw [if_neg empty, compile_of_spans empty h]

/-- With the stray brace before it, the last one is the second of its kind and ends no span. -/
example : compile "a\x7db{c}".toList =
    .ok ⟨"a\x7db{c}".toList, [.literal "a\x7db{c}".toList]⟩ := by rfl

end Phrasebook.Template
