import Phrasebook.Demo.Controllers
import Phrasebook.Proofs.Text.Pieces

/-! Names and ages as text. A list of ages is read entry by entry between semicolons; an entry is cut
at its first equals sign, and one that lacks a name or an age is passed over. -/
namespace Phrasebook.Demo.Ages

/-- An entry with a name and an age, as a list may hold it. An age may have equals signs in it. -/
structure Proper (entry : Text × Text) : Prop where
  name : entry.1 ≠ []
  age : entry.2 ≠ []
  nameFree : ';' ∉ entry.1
  nameUnmarked : '=' ∉ entry.1
  ageFree : ';' ∉ entry.2

def written (entry : Text × Text) : Text := entry.1 ++ '=' :: entry.2

/-- What is no entry: a piece without an equals sign, be it empty, or with nothing before the first
one or after it. -/
inductive Malformed (piece : Text) : Prop
  | unmarked : '=' ∉ piece → Malformed piece
  | nameless {age : Text} : piece = '=' :: age → Malformed piece
  | ageless {name : Text} : '=' ∉ name → piece = name ++ ['='] → Malformed piece

/-- Pieces that hold these ages, among others that hold none. -/
inductive Lists : List Text → Ages → Prop
  | nil : Lists [] []
  | entry {entry : Text × Text} {pieces : List Text} {ages : Ages} :
      Proper entry → Lists pieces ages → Lists (written entry :: pieces) (entry :: ages)
  | skipped {piece : Text} {pieces : List Text} {ages : Ages} :
      ';' ∉ piece → Malformed piece → Lists pieces ages → Lists (piece :: pieces) ages

/-- The entry that a piece holds, if it holds one. -/
def entryIn? (piece : Text) : Option (Text × Text) :=
  (Text.cutAt? '=' piece).filter isComplete

theorem read_eq (raw : Text) : read raw = (Text.pieces ';' raw).filterMap entryIn? := by
  rw [read, List.filter_filterMap]
  rfl

theorem entryIn?_eq_some_iff {piece : Text} {entry : Text × Text} :
    entryIn? piece = some entry ↔
      piece = written entry ∧ '=' ∉ entry.1 ∧ entry.1 ≠ [] ∧ entry.2 ≠ [] := by
  rw [entryIn?, Option.filter_eq_some_iff, Text.cutAt?_eq_some_iff]
  simp [isComplete, written, and_assoc]

theorem entryIn?_eq_none_iff {piece : Text} : entryIn? piece = none ↔ Malformed piece := by
  constructor
  · intro none
    cases cut : Text.cutAt? '=' piece with
    | none => exact .unmarked (Text.cutAt?_eq_none_iff.1 cut)
    | some entry =>
      obtain ⟨name, age⟩ := entry
      obtain ⟨rfl, unmarked⟩ := Text.cutAt?_eq_some_iff.1 cut
      by_cases nameless : name = []
      · exact .nameless (by rw [nameless]; rfl)
      · have ageless : age = [] := by simpa [entryIn?, cut, isComplete, nameless] using none
        exact .ageless unmarked (by rw [ageless])
  · rintro (unmarked | rfl | ⟨unmarked, rfl⟩)
    · simp [entryIn?, Text.cutAt?_eq_none_iff.2 unmarked]
    · simp [entryIn?, Text.cutAt?, isComplete]
    · simp [entryIn?, Text.cutAt?_eq_some_iff.2 ⟨rfl, unmarked⟩, isComplete]

theorem proper_of_entryIn? {piece : Text} {entry : Text × Text} (free : ';' ∉ piece)
    (held : entryIn? piece = some entry) : Proper entry := by
  obtain ⟨rfl, unmarked, name, age⟩ := entryIn?_eq_some_iff.1 held
  have apart : ';' ∉ entry.1 ∧ ';' ∉ entry.2 := by simpa [written] using free
  exact ⟨name, age, apart.1, unmarked, apart.2⟩

theorem Proper.written_free {entry : Text × Text} (proper : Proper entry) :
    ';' ∉ written entry := by
  simp [written, proper.nameFree, proper.ageFree]

theorem Proper.entryIn?_written {entry : Text × Text} (proper : Proper entry) :
    entryIn? (written entry) = some entry :=
  entryIn?_eq_some_iff.2 ⟨rfl, proper.nameUnmarked, proper.name, proper.age⟩

/-- Pieces hold the ages that are found in them one by one. -/
theorem lists_iff {pieces : List Text} {ages : Ages} :
    Lists pieces ages ↔ (∀ piece ∈ pieces, ';' ∉ piece) ∧ pieces.filterMap entryIn? = ages := by
  constructor
  · intro lists
    induction lists with
    | nil => exact ⟨nofun, rfl⟩
    | entry proper _ ih =>
      refine ⟨List.forall_mem_cons.2 ⟨proper.written_free, ih.1⟩, ?_⟩
      rw [List.filterMap_cons_some proper.entryIn?_written, ih.2]
    | skipped free malformed _ ih =>
      refine ⟨List.forall_mem_cons.2 ⟨free, ih.1⟩, ?_⟩
      rw [List.filterMap_cons_none (entryIn?_eq_none_iff.2 malformed), ih.2]
  · rintro ⟨free, rfl⟩
    induction pieces with
    | nil => exact .nil
    | cons piece pieces ih =>
      obtain ⟨here, later⟩ := List.forall_mem_cons.1 free
      cases held : entryIn? piece with
      | none =>
        rw [List.filterMap_cons_none held]
        exact .skipped here (entryIn?_eq_none_iff.1 held) (ih later)
      | some entry =>
        rw [List.filterMap_cons_some held, (entryIn?_eq_some_iff.1 held).1]
        exact .entry (proper_of_entryIn? here held) (ih later)

theorem lists_pieces (raw : Text) : Lists (Text.pieces ';' raw) (read raw) :=
  lists_iff.2 ⟨fun _ => Text.notMem_of_mem_pieces, (read_eq raw).symm⟩

theorem read_append_cons (x y : Text) : read (x ++ ';' :: y) = read x ++ read y := by
  rw [read_eq, read_eq, read_eq, Text.pieces_append_cons, List.filterMap_append]

theorem read_joined {pieces : List Text} {ages : Ages} (lists : Lists pieces ages) :
    read (Text.joined [';'] pieces) = ages := by
  obtain ⟨free, found⟩ := lists_iff.1 lists
  by_cases some : pieces = []
  · subst some
    exact found
  · rw [read_eq, Text.pieces_joined some free, found]

theorem Lists.proper {pieces : List Text} {ages : Ages} (lists : Lists pieces ages) :
    ∀ entry ∈ ages, Proper entry := by
  induction lists with
  | nil => exact nofun
  | entry proper _ ih => exact List.forall_mem_cons.2 ⟨proper, ih⟩
  | skipped _ _ _ ih => exact ih

theorem lists_written {ages : Ages} (proper : ∀ entry ∈ ages, Proper entry) :
    Lists (ages.map written) ages := by
  induction ages with
  | nil => exact .nil
  | cons entry ages ih =>
    obtain ⟨here, later⟩ := List.forall_mem_cons.1 proper
    exact .entry here (ih later)

/-- Ages are read from any text. A semicolon divides it into texts that are read on their own. Ages
that were written between semicolons come back in order and with repeats, whatever malformed pieces
stand among them, and all ages that are read are proper ones. -/
theorem ages_syntax :
    (∀ name raw, agesParser.parse name raw = .ok (read raw)) ∧
    (∀ x y, read (x ++ ';' :: y) = read x ++ read y) ∧
    (∀ ages : Ages, (∀ entry ∈ ages, Proper entry) → Lists (ages.map written) ages) ∧
    (∀ raw ages, read raw = ages ↔
      ∃ pieces, raw = Text.joined [';'] pieces ∧ Lists pieces ages) ∧
    (∀ raw, ∀ entry ∈ read raw, Proper entry) := by
  refine ⟨fun _ _ => rfl, read_append_cons, fun _ => lists_written, fun raw ages => ⟨?_, ?_⟩,
    fun raw => (lists_pieces raw).proper⟩
  · rintro rfl
    exact ⟨Text.pieces ';' raw, (Text.joined_pieces ';' raw).symm, lists_pieces raw⟩
  · rintro ⟨pieces, rfl, lists⟩
    exact read_joined lists

example : read ";Ada=36;;nobody;=5;Eve=;Bob=4=0;".toList =
    [("Ada".toList, "36".toList), ("Bob".toList, "4=0".toList)] := by decide +kernel

end Phrasebook.Demo.Ages
