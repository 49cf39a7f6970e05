import Phrasebook.Proofs.Template.Regular
import Phrasebook.Proofs.Text.Slice

/-! Compiling a template by byte offsets. Two marks are kept, behind the last brace that ended a
span and behind the last brace that opened one, and the texts between them are slices of the
template. No slice is ever out of range, and what comes out is the compiled template. -/
namespace Phrasebook.Template

open Slicing Text

/-- What is known after some characters of a template. -/
structure Marks where
  parts : List Part
  opened : Bool
  closed : Bool
  /-- The byte offset behind the last brace that switched `opened` on. -/
  nameStart : Nat
  /-- The byte offset behind the last brace that ended a span. -/
  partEnd : Nat

namespace Marks

def start : Marks := ⟨[], false, false, 0, 0⟩

/-- Adds a span with its opening brace at `brace` and its closing brace at `i`. -/
def add (m : Marks) (brace i : Nat) (lead name : Text) : Except TemplateError Marks :=
  if lead = [] ∧ m.partEnd ≠ 0 then .error (.adjacent brace)
  else if name ≠ [] ∧ .placeholder name ∈ m.parts then .error (.repeated name)
  else .ok ⟨m.parts ++ Part.spanned lead name, false, false, m.nameStart, i + 1⟩

/-- Ends a span at the closing brace with the byte offset `i`. -/
def finish (source : Text) (m : Marks) (i : Nat) : Slicing (Except TemplateError Marks) := do
  let brace ← predecessor m.nameStart
  let lead ← slice ⟨source, m.partEnd, brace⟩
  let name ← slice ⟨source, m.nameStart, i⟩
  return m.add brace i lead name

def feed (source : Text) (m : Marks) (i : Nat) (c : Char) :
    Slicing (Except TemplateError Marks) :=
  if c = '{' then
    return .ok { m with
      opened := !m.opened
      nameStart := if m.opened then m.nameStart else i + 1 }
  else if c = '}' then
    if m.opened ∧ m.closed = false then m.finish source i
    else return .ok { m with closed := !m.closed }
  else return .ok m

def run (source : Text) : Marks → List (Nat × Char) → Slicing (Except TemplateError Marks)
  | m, [] => return .ok m
  | m, (i, c) :: more => do
    match ← m.feed source i c with
    | .error e => return .error e
    | .ok next => next.run source more

/-- Text behind the last span is one more literal. -/
def close (source : Text) (m : Marks) : Slicing Template :=
  if m.partEnd < byteSize source then do
    let rest ← slice ⟨source, m.partEnd, byteSize source⟩
    return ⟨source, m.parts ++ [.literal rest]⟩
  else return ⟨source, m.parts⟩

end Marks

def compileByOffsets (source : Text) : Slicing (Except TemplateError Template) :=
  if source = [] then return .error .empty
  else do
    match ← Marks.start.run source (source.indexed 0) with
    | .error e => return .error e
    | .ok m => do
      let t ← m.close source
      return .ok t

namespace Scan

variable {s : Scan}

/-- A closing brace that ends no span flips its switch. -/
theorem feed_stray (stray : ¬ ∃ name, s.inside = some name ∧ s.closed = false) :
    s.feed '}' = .ok { s.append '}' with closed := !s.closed } := by
  rw [feed, if_neg (by decide), if_pos rfl]
  split
  · next name inside closed => exact absurd ⟨name, inside, closed⟩ stray
  · rfl

theorem feed_plain {c : Char} (opening : c ≠ '{') (closing : c ≠ '}') :
    s.feed c = .ok { s.append c with closed := s.closed } := by
  have kept : (s.append c).closed = s.closed := by
    unfold append
    cases s.inside <;> rfl
  rw [feed, if_neg opening, if_neg closing, ← kept]

end Scan

namespace Marks

variable {source passed back : Text} {s : Scan} {m : Marks} {name : Text}

/-- The marks say of the text passed what the scan says of it. -/
structure Follows (passed : Text) (s : Scan) (m : Marks) : Prop where
  parts : m.parts = s.parts
  partEnd : m.partEnd = s.boundary
  opened : m.opened = s.inside.isSome
  closed : m.closed = s.closed
  nameStart : ∀ name, s.inside = some name → m.nameStart = s.boundary + byteSize s.before + 1
  passed : ∃ front, passed = front ++ s.rest ∧ byteSize front = s.boundary

/-- Both fail alike, or the marks go on to say what the scan says. -/
inductive Alike (passed : Text) : Except TemplateError Scan → Except TemplateError Marks → Prop
  | error (e : TemplateError) : Alike passed (.error e) (.error e)
  | ok {s : Scan} {m : Marks} : m.Follows passed s → Alike passed (.ok s) (.ok m)

theorem start_follows : Follows [] Scan.start start :=
  ⟨rfl, rfl, rfl, rfl, nofun, [], rfl, rfl⟩

theorem Follows.size (h : m.Follows passed s) : byteSize passed = s.boundary + byteSize s.rest := by
  obtain ⟨front, rfl, boundary⟩ := h.passed
  rw [byteSize_append, boundary]

/-- The slices of a span, where a name is open. -/
theorem Follows.slices (h : m.Follows passed s) (inside : s.inside = some name)
    (whole : source = passed ++ back) :
    m.nameStart = m.partEnd + byteSize s.before + 1 ∧
      Slice.read? ⟨source, m.partEnd, m.partEnd + byteSize s.before⟩ = some s.before ∧
      Slice.read? ⟨source, m.nameStart, byteSize passed⟩ = some name := by
  obtain ⟨front, rfl, boundary⟩ := h.passed
  have nameStart := h.nameStart name inside
  have partEnd := h.partEnd
  have brace : '{'.utf8Size = 1 := rfl
  have rest : s.rest = s.before ++ '{' :: name := by simp [Scan.rest, inside]
  refine ⟨by omega, Slice.read?_eq_some_iff.2 ⟨front, '{' :: name ++ back, ?_, ?_, ?_⟩,
    Slice.read?_eq_some_iff.2 ⟨front ++ s.before ++ ['{'], back, ?_, ?_, ?_⟩⟩
  · simp [whole, rest]
  · simp only; omega
  · simp only [byteSize_append]; omega
  · simp [whole, rest]
  · simp only [byteSize_append, byteSize_cons, byteSize_nil, brace]; omega
  · simp only [rest, byteSize_append, byteSize_cons, byteSize_nil, brace]; omega

theorem Follows.finish_safe (h : m.Follows passed s) (inside : s.inside = some name)
    (whole : source = passed ++ back) :
    (m.finish source (byteSize passed)).Safe
      (m.add (m.partEnd + byteSize s.before) (byteSize passed) s.before name) := by
  obtain ⟨nameStart, lead, named⟩ := h.slices inside whole
  have brace : (predecessor m.nameStart).Safe (m.partEnd + byteSize s.before) :=
    nameStart ▸ predecessor_safe _
  exact brace.bind ((slice_safe lead).bind ((slice_safe named).bind (Safe.pure _)))

theorem Follows.add_alike (h : m.Follows passed s) (sound : s.Sound)
    (inside : s.inside = some name) :
    Alike (passed ++ ['}']) (s.finish name)
      (m.add (m.partEnd + byteSize s.before) (byteSize passed) s.before name) := by
  have used : name ≠ [] ∧ .placeholder name ∈ m.parts ↔ name ∈ Part.names s.parts := by
    rw [h.parts, Part.placeholder_mem_iff, and_iff_right_iff_imp]
    rintro member rfl
    exact sound.regular.placeholders (Part.placeholder_mem_iff.2 member)
  have opening : '{'.utf8Size = 1 := rfl
  have closing : '}'.utf8Size = 1 := rfl
  have size : byteSize passed = s.boundary + byteSize s.before + byteSize name + 1 := by
    rw [h.size, Scan.rest, inside]
    simp only [byteSize_append, byteSize_cons, opening]
    omega
  simp only [add, Scan.finish, h.partEnd, used]
  split
  · exact .error _
  · split
    · exact .error _
    · refine .ok ⟨by simp [h.parts, Part.spanned], ?_, rfl, rfl, ?_, passed ++ ['}'], ?_, ?_⟩
      · simp only; omega
      · intro other unopened
        cases unopened
      · simp [Scan.rest]
      · simp only [byteSize_append, byteSize_cons, byteSize_nil, closing]; omega

theorem Follows.passed_adds {c : Char} {next : Scan} (h : m.Follows passed s)
    (adds : s.Adds c next) :
    ∃ front, passed ++ [c] = front ++ next.rest ∧ byteSize front = next.boundary := by
  obtain ⟨front, whole, boundary⟩ := h.passed
  exact ⟨front, by rw [adds.rest, whole, List.append_assoc], by rw [adds.boundary, boundary]⟩

theorem Follows.flip (h : m.Follows passed s) :
    Follows (passed ++ ['{']) s.flip { m with
      opened := !m.opened
      nameStart := if m.opened then m.nameStart else byteSize passed + 1 } := by
  have adds := s.flip_adds
  refine ⟨?_, ?_, ?_, ?_, ?_, h.passed_adds adds⟩
  · rw [adds.parts]; exact h.parts
  · rw [adds.boundary]; exact h.partEnd
  -- what is left is about the switches and the name, by whether one is open
  all_goals
    have size := h.size
    have opened := h.opened
    unfold Scan.flip
    cases inside : s.inside with
    | none => simp_all [Scan.rest, h.closed]
    | some name => simp_all [h.closed]

theorem Follows.append (h : m.Follows passed s) (c : Char) (closed : Bool) :
    Follows (passed ++ [c]) { s.append c with closed := closed } { m with closed := closed } := by
  have adds := s.append_adds c closed
  refine ⟨?_, ?_, ?_, rfl, ?_, h.passed_adds adds⟩
  · rw [adds.parts]; exact h.parts
  · rw [adds.boundary]; exact h.partEnd
  all_goals
    have opened := h.opened
    have nameStart := h.nameStart
    unfold Scan.append
    cases inside : s.inside with
    | none => simp_all
    | some name => simp_all

theorem Follows.ends_iff (h : m.Follows passed s) :
    (m.opened ∧ m.closed = false) ↔ ∃ name, s.inside = some name ∧ s.closed = false := by
  rw [h.opened, h.closed, Option.isSome_iff_exists, exists_and_right]

/-- One character, scanned and read by offsets. -/
theorem feed_alike (c : Char) (h : m.Follows passed s) (sound : s.Sound)
    (whole : source = passed ++ back) :
    ∃ out, (m.feed source (byteSize passed) c).Safe out ∧ Alike (passed ++ [c]) (s.feed c) out := by
  by_cases opening : c = '{'
  · subst opening
    exact ⟨_, Safe.pure _, .ok h.flip⟩
  by_cases closing : c = '}'
  · subst closing
    by_cases ends : m.opened ∧ m.closed = false
    · obtain ⟨name, inside, closed⟩ := h.ends_iff.1 ends
      have fed : s.feed '}' = s.finish name := by simp [Scan.feed, inside, closed]
      have read : m.feed source (byteSize passed) '}' = m.finish source (byteSize passed) := by
        simp [feed, ends]
      rw [fed, read]
      exact ⟨_, h.finish_safe inside whole, h.add_alike sound inside⟩
    · have read : m.feed source (byteSize passed) '}' =
          return .ok { m with closed := !m.closed } := by
        simp [feed, ends]
      rw [Scan.feed_stray (mt h.ends_iff.2 ends), read, h.closed]
      exact ⟨_, Safe.pure _, .ok (h.append '}' _)⟩
  · have read : m.feed source (byteSize passed) c = return .ok m := by
      simp [feed, opening, closing]
    rw [Scan.feed_plain opening closing, read]
    exact ⟨_, Safe.pure _, .ok (h.closed ▸ h.append c m.closed)⟩

theorem run_alike {t : Text} (h : m.Follows passed s) (sound : s.Sound)
    (whole : source = passed ++ t ++ back) :
    ∃ out, (m.run source (t.indexed (byteSize passed))).Safe out ∧
      Alike (passed ++ t) (s.run t) out := by
  induction t generalizing s m passed with
  | nil => exact ⟨.ok m, Safe.pure _, by simpa using .ok h⟩
  | cons c t ih =>
    obtain ⟨out, fed, alike⟩ := feed_alike c h sound (by simpa using whole)
    have size : byteSize (passed ++ [c]) = byteSize passed + c.utf8Size := by simp
    cases scanned : s.feed c with
    | error e =>
      rw [scanned] at alike
      cases alike
      exact ⟨.error e, fed.bind (Safe.pure _), by simpa [Scan.run, scanned] using .error e⟩
    | ok next =>
      rw [scanned] at alike
      cases alike with
      | ok follows =>
        obtain ⟨last, passes, alike⟩ :=
          ih follows (Scan.feed_sound sound scanned) (by simpa using whole)
        rw [size] at passes
        exact ⟨last, fed.bind passes, by simpa [Scan.run, scanned] using alike⟩

theorem start_alike {t : Text} (whole : source = t ++ back) :
    ∃ out, (start.run source (t.indexed 0)).Safe out ∧ Alike t (Scan.start.run t) out :=
  run_alike start_follows Scan.start_sound whole

theorem Follows.close_safe (h : m.Follows source s) :
    (m.close source).Safe ⟨source, s.parts ++ if s.rest = [] then [] else [.literal s.rest]⟩ := by
  obtain ⟨front, whole, boundary⟩ := h.passed
  have size := h.size
  have partEnd := h.partEnd
  by_cases empty : s.rest = []
  · have none : ¬ m.partEnd < byteSize source := by
      rw [empty, byteSize_nil] at size
      omega
    rw [close, if_neg none, if_pos empty, List.append_nil, h.parts]
    exact Safe.pure _
  · have more : m.partEnd < byteSize source := by
      have := mt byteSize_eq_zero_iff.1 empty
      omega
    have rest : Slice.read? ⟨source, m.partEnd, byteSize source⟩ = some s.rest := by
      rw [partEnd, ← boundary]
      exact Slice.read?_from whole
    rw [close, if_pos more, if_neg empty, h.parts]
    exact (slice_safe rest).bind (Safe.pure _)

end Marks

theorem compileByOffsets_safe (source : Text) :
    (compileByOffsets source).Safe (compile source) := by
  by_cases empty : source = []
  · subst empty
    exact Safe.pure _
  · rw [compileByOffsets, compile, if_neg empty, if_neg empty]
    obtain ⟨out, passes, alike⟩ := Marks.start_alike (List.append_nil source).symm
    cases scanned : Scan.start.run source with
    | error e =>
      rw [scanned] at alike
      cases alike
      exact passes.bind (Safe.pure _)
    | ok s =>
      rw [scanned] at alike
      cases alike with
      | ok follows => exact passes.bind (follows.close_safe.bind (Safe.pure _))

/-- What compiling gives comes without a fault. Where a closing brace ends a span, its name starts
behind the boundary, so there is a byte for the opening brace, and both texts of the span are in
range. -/
structure CompilesInRange (source : Text) : Prop where
  safe : (compileByOffsets source).Safe (compile source)
  span : ∀ front back m, source = front ++ '}' :: back →
    (Marks.start.run source (front.indexed 0)).result = .ok (.ok m) →
    m.opened = true → m.closed = false →
    m.partEnd + 1 ≤ m.nameStart ∧
      Slice.InRange ⟨source, m.partEnd, m.nameStart - 1⟩ ∧
      Slice.InRange ⟨source, m.nameStart, byteSize front⟩

theorem Marks.Follows.span_in_range {source front back : Text} {s : Scan} {m : Marks}
    (h : m.Follows front s) (whole : source = front ++ back) (opened : m.opened = true) :
    m.partEnd + 1 ≤ m.nameStart ∧
      Slice.InRange ⟨source, m.partEnd, m.nameStart - 1⟩ ∧
      Slice.InRange ⟨source, m.nameStart, byteSize front⟩ := by
  obtain ⟨name, inside⟩ := Option.isSome_iff_exists.1 (h.opened ▸ opened)
  obtain ⟨nameStart, lead, named⟩ := h.slices inside whole
  have brace : m.nameStart - 1 = m.partEnd + byteSize s.before := by omega
  rw [brace]
  exact ⟨by omega, .of_read? lead, .of_read? named⟩

theorem compiles_in_range (source : Text) : CompilesInRange source := by
  refine ⟨compileByOffsets_safe source, fun front back m whole reached opened _ => ?_⟩
  obtain ⟨out, passes, alike⟩ := Marks.start_alike whole
  cases passes.eq_of_result reached
  generalize scanned : Scan.start.run front = outcome at alike
  cases alike with
  | ok follows => exact follows.span_in_range whole opened

end Phrasebook.Template
