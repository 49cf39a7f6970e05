import Phrasebook.Proofs.Template.Offsets
import Phrasebook.Proofs.Template.Search
import Phrasebook.Template.Match

/-! Matching a line by a cursor, the byte offset up to which the parts passed have been found. The
cursor moves forward from boundary to boundary of the line, whatever the bytes of the literals. No
slice is out of range, and what comes out is the match. -/
namespace Phrasebook.Template

open Slicing Text

structure Cursor where
  offset : Nat
  waiting : Option Text
  values : List (Text × Text)
  deriving DecidableEq

namespace Cursor

def start : Cursor := ⟨0, none, []⟩

/-- The values with the stretch up to a byte offset, if a placeholder waits for it. -/
def take (line : Text) (k : Cursor) (stop : Nat) : Slicing (Option (List (Text × Text))) :=
  if k.offset < stop then
    match k.waiting with
    | none => return none
    | some name => do
      let value ← slice ⟨line, k.offset, stop⟩
      return some (k.values ++ [(name, value)])
  else return some k.values

def pass (rule : CaseRule) (line : Text) (k : Cursor) : Part → Slicing (Option Cursor)
  | .placeholder name => return some { k with waiting := some name }
  | .literal x => do
    match ← searchFrom rule line x k.offset with
    | none => return none
    | some (start, stop) => do
      match ← k.take line start with
      | none => return none
      | some values => return some ⟨stop, none, values⟩

def run (rule : CaseRule) (line : Text) : Cursor → List Part → Slicing (Option Cursor)
  | k, [] => return some k
  | k, p :: parts => do
    match ← k.pass rule line p with
    | none => return none
    | some next => next.run rule line parts

end Cursor

def matchByCursor (t : Template) (rule : CaseRule) (line : Text) : Slicing (Option Captures) := do
  match ← Cursor.start.run rule line t.parts with
  | none => return none
  | some k => do
    match ← k.take line (byteSize line) with
    | none => return none
    | some values => return some ⟨values, rule⟩

namespace Cursor

variable {rule : CaseRule} {line rest x : Text} {o : Occurrence} {k : Cursor} {p : Part}
  {parts : List Part}

/-- The text from the cursor on. -/
def Before (line : Text) (k : Cursor) (rest : Text) : Prop :=
  ∃ front, line = front ++ rest ∧ byteSize front = k.offset

/-- The values there will be when the parts have been matched with the rest. -/
def outcome (rule : CaseRule) (k : Cursor) (parts : List Part) (rest : Text) :
    Option (List (Text × Text)) :=
  (matchParts rule k.waiting parts rest).map (k.values ++ ·)

/-- Where passing some parts may lead. The cursor goes forward, and the outcome is settled by what
is left. -/
inductive Leads (rule : CaseRule) (line : Text) (k : Cursor) (rest : Text) (passed : List Part) :
    Option Cursor → Prop
  | nowhere : (∀ more, k.outcome rule (passed ++ more) rest = none) →
      Leads rule line k rest passed none
  | reached {next : Cursor} {left : Text} : next.Before line left → k.offset ≤ next.offset →
      (∀ more, k.outcome rule (passed ++ more) rest = next.outcome rule more left) →
      Leads rule line k rest passed (some next)

theorem Before.boundary (h : k.Before line rest) :
    k.offset ≤ byteSize line ∧ line.Boundary k.offset := by
  obtain ⟨front, rfl, size⟩ := h
  exact ⟨by simp [← size], front, rest, rfl, size⟩

/-- A stretch is taken as it is captured. -/
theorem Before.take_safe {stretch behind : Text} (h : k.Before line (stretch ++ behind)) :
    (k.take line (k.offset + byteSize stretch)).Safe
      ((capture k.waiting stretch).map (k.values ++ ·)) := by
  by_cases empty : stretch = []
  · subst empty
    simpa [take, capture] using Safe.pure _
  · have more : k.offset < k.offset + byteSize stretch := by
      have := mt byteSize_eq_zero_iff.1 empty
      omega
    rw [take, if_pos more, capture, if_neg empty]
    cases k.waiting with
    | none => exact Safe.pure _
    | some name =>
      obtain ⟨front, whole, size⟩ := h
      have value : Slice.read? ⟨line, k.offset, k.offset + byteSize stretch⟩ = some stretch :=
        Slice.read?_eq_some_iff.2 ⟨front, behind, by simp [whole], size, by simp [size]⟩
      exact (slice_safe value).bind (Safe.pure _)

theorem Before.searched (rule : CaseRule) (h : k.Before line rest) (nonempty : x ≠ []) :
    (searchFrom rule line x k.offset).Safe
      ((Occurrence.first? rule x rest).map fun o => (k.offset + o.bytes.1, k.offset + o.bytes.2)) := by
  obtain ⟨front, whole, size⟩ := h
  exact size ▸ searchFrom_safe rule nonempty whole

theorem Before.taken (h : k.Before line rest) (found : Occurrence.first? rule x rest = some o) :
    (k.take line (k.offset + o.bytes.1)).Safe
      ((capture k.waiting o.before).map (k.values ++ ·)) := by
  rw [Occurrence.first?_append found, List.append_assoc] at h
  exact h.take_safe

/-- Behind an occurrence stands the text after it. -/
theorem Before.behind (h : k.Before line rest) (found : Occurrence.first? rule x rest = some o)
    (waiting : Option Text) (values : List (Text × Text)) :
    Before line ⟨k.offset + o.bytes.2, waiting, values⟩ o.after := by
  obtain ⟨front, whole, size⟩ := h
  refine ⟨front ++ o.before ++ o.found, ?_, ?_⟩
  · rw [whole, Occurrence.first?_append found]
    simp
  · simp [size, Occurrence.bytes]

/-- One part. -/
theorem pass_leads (rule : CaseRule) (h : k.Before line rest) (text : p ≠ .literal []) :
    ∃ out, (k.pass rule line p).Safe out ∧ Leads rule line k rest [p] out := by
  cases p with
  | placeholder name => exact ⟨_, Safe.pure _, .reached h (Nat.le_refl _) fun more => rfl⟩
  | literal x =>
    have nonempty : x ≠ [] := by rintro rfl; exact text rfl
    have searched := h.searched rule nonempty
    cases found : Occurrence.first? rule x rest with
    | none =>
      rw [found] at searched
      refine ⟨none, searched.bind (Safe.pure _), .nowhere fun more => ?_⟩
      simp [outcome, matchParts, found]
    | some o =>
      rw [found] at searched
      have taken := h.taken found
      cases captured : capture k.waiting o.before with
      | none =>
        rw [captured] at taken
        refine ⟨none, searched.bind (taken.bind (Safe.pure _)), .nowhere fun more => ?_⟩
        simp [outcome, matchParts, found, captured]
      | some here =>
        rw [captured] at taken
        have behind := h.behind found none (k.values ++ here)
        refine ⟨_, searched.bind (taken.bind (Safe.pure _)),
          .reached behind (Nat.le_add_right _ _) fun more => ?_⟩
        simp [outcome, matchParts, found, captured, Function.comp_def]

/-- By induction on the parts: each leads to where the next begins. -/
theorem run_leads (rule : CaseRule) (h : k.Before line rest) (texts : .literal [] ∉ parts) :
    ∃ out, (k.run rule line parts).Safe out ∧ Leads rule line k rest parts out := by
  induction parts generalizing k rest with
  | nil => exact ⟨_, Safe.pure _, .reached h (Nat.le_refl _) fun more => rfl⟩
  | cons p parts ih =>
    obtain ⟨text, texts⟩ := List.ne_and_not_mem_of_not_mem_cons texts
    obtain ⟨out, passes, leads⟩ := pass_leads rule h text.symm
    cases leads with
    | nowhere lost =>
      exact ⟨none, passes.bind (Safe.pure _), .nowhere fun more => lost (parts ++ more)⟩
    | @reached next left before forward kept =>
      obtain ⟨last, runs, leads⟩ := ih before texts
      refine ⟨last, passes.bind runs, ?_⟩
      cases leads with
      | nowhere lost => exact .nowhere fun more => (kept (parts ++ more)).trans (lost more)
      | reached before' forward' kept' =>
        exact .reached before' (Nat.le_trans forward forward') fun more =>
          (kept (parts ++ more)).trans (kept' more)

theorem start_before (line : Text) : start.Before line line := ⟨[], rfl, rfl⟩

end Cursor

theorem matchByCursor_safe {t : Template} (rule : CaseRule) (line : Text)
    (texts : .literal [] ∉ t.parts) : (matchByCursor t rule line).Safe (t.match? rule line) := by
  have matched : t.match? rule line =
      (Cursor.start.outcome rule (t.parts ++ []) line).map (⟨·, rule⟩) := by
    simp [match?, Cursor.outcome, Cursor.start]
  obtain ⟨out, runs, leads⟩ := Cursor.run_leads rule (Cursor.start_before line) texts
  refine runs.bind ?_
  rw [matched]
  cases leads with
  | nowhere lost =>
    rw [lost]
    exact Safe.pure _
  | @reached last left before _ kept =>
    have atEnd : last.Before line (left ++ []) := by rwa [List.append_nil]
    have taken := atEnd.take_safe
    have whole : last.offset + byteSize left = byteSize line := by
      obtain ⟨front, rfl, size⟩ := before
      rw [byteSize_append, size]
    rw [whole] at taken
    refine taken.bind ?_
    rw [kept, Cursor.outcome, matchParts]
    cases (capture last.waiting left).map (last.values ++ ·) with
    | none => exact Safe.pure _
    | some values => exact Safe.pure _

/-- Where the cursor is when only the later parts are left. -/
def Cursor.Reached (t : Template) (rule : CaseRule) (line : Text) (k : Cursor)
    (later : List Part) : Prop :=
  ∃ passed, t.parts = passed ++ later ∧ (start.run rule line passed).result = .ok (some k)

/-- What matching gives comes without a fault. The cursor stays within the line, on a boundary, and
never goes back. What it finds is a stretch of the line that it has not passed. -/
structure MatchesInRange (t : Template) (rule : CaseRule) (line : Text) : Prop where
  safe : (matchByCursor t rule line).Safe (t.match? rule line)
  within : ∀ (k : Cursor) later, k.Reached t rule line later →
    k.offset ≤ byteSize line ∧ line.Boundary k.offset
  forward : ∀ (k next : Cursor) p later, k.Reached t rule line (p :: later) →
    (k.pass rule line p).result = .ok (some next) → k.offset ≤ next.offset
  found : ∀ (k : Cursor) x later start stop, k.Reached t rule line (.literal x :: later) →
    (searchFrom rule line x k.offset).result = .ok (some (start, stop)) →
    k.offset ≤ start ∧ Slice.InRange ⟨line, start, stop⟩

theorem Cursor.Reached.before {t : Template} {rule : CaseRule} {line : Text} {k : Cursor}
    {later : List Part} (h : k.Reached t rule line later) (texts : .literal [] ∉ t.parts) :
    ∃ rest, k.Before line rest := by
  obtain ⟨passed, whole, result⟩ := h
  have texts' : .literal [] ∉ passed := fun member =>
    texts (whole ▸ List.mem_append_left later member)
  obtain ⟨out, runs, leads⟩ := run_leads rule (start_before line) texts'
  cases runs.eq_of_result result
  cases leads with
  | reached before _ _ => exact ⟨_, before⟩

theorem matches_in_range {t : Template} (texts : .literal [] ∉ t.parts) (rule : CaseRule)
    (line : Text) : MatchesInRange t rule line where
  safe := matchByCursor_safe rule line texts
  within k later reached := by
    obtain ⟨rest, before⟩ := reached.before texts
    exact before.boundary
  forward k next p later reached result := by
    obtain ⟨rest, before⟩ := reached.before texts
    have text : p ≠ .literal [] := by
      obtain ⟨passed, whole, _⟩ := reached
      rintro rfl
      exact texts (by simp [whole])
    obtain ⟨out, passes, leads⟩ := Cursor.pass_leads rule before text
    cases passes.eq_of_result result
    cases leads with
    | reached _ forward _ => exact forward
  found k x later start stop reached result := by
    obtain ⟨rest, front, cut, size⟩ := reached.before texts
    have nonempty : x ≠ [] := by
      obtain ⟨passed, whole, _⟩ := reached
      rintro rfl
      exact texts (by simp [whole])
    rw [← size] at result ⊢
    exact searchFrom_in_range nonempty cut result

/-- No text makes compiling or matching take a slice that is out of range. -/
theorem slices_in_range (source line : Text) (rule : CaseRule) :
    CompilesInRange source ∧ ∀ t, compile source = .ok t → MatchesInRange t rule line :=
  ⟨compiles_in_range source, fun _ compiled =>
    matches_in_range (compile_regular compiled).literals rule line⟩

/-- The Kelvin sign takes three bytes and is found for a letter of one. -/
theorem kelvin_in_range :
    compile "k{n}".toList = .ok ⟨"k{n}".toList, [.literal ['k'], .placeholder ['n']]⟩ ∧
      MatchesInRange ⟨"k{n}".toList, [.literal ['k'], .placeholder ['n']]⟩ .ignoring
        "\u212a7".toList ∧
      (matchByCursor ⟨"k{n}".toList, [.literal ['k'], .placeholder ['n']]⟩ .ignoring
        "\u212a7".toList).taken =
        [⟨"\u212a7".toList, 0, 4⟩, ⟨"\u212a7".toList, 0, 4⟩, ⟨"\u212a7".toList, 3, 4⟩] := by
  have compiled :
      compile "k{n}".toList = .ok ⟨"k{n}".toList, [.literal ['k'], .placeholder ['n']]⟩ := by
    decide
  exact ⟨compiled, (slices_in_range _ _ _).2 _ compiled, by decide⟩

end Phrasebook.Template
