import Phrasebook.Text.Basic

/-! Stretches of a text by byte offsets. A slice is in range if it does not end before it starts,
ends within the text, and cuts no character in two. To take another one is a fault. Computations
that take slices are kept together with the slices they take. -/
namespace Phrasebook

namespace Text

/-- A character begins at the byte offset, or the text ends there. -/
def Boundary (t : Text) (offset : Nat) : Prop :=
  ∃ front back, t = front ++ back ∧ byteSize front = offset

/-- The text before and after a byte offset, if that is a boundary. -/
def splitAt? : Text → Nat → Option (Text × Text)
  | t, 0 => some ([], t)
  | [], _ + 1 => none
  | c :: t, n + 1 =>
    if c.utf8Size ≤ n + 1 then
      (splitAt? t (n + 1 - c.utf8Size)).map fun (front, back) => (c :: front, back)
    else none

/-- The characters of a text with the byte offsets at which they begin, counted from a base. -/
def indexed (base : Nat) : Text → List (Nat × Char)
  | [] => []
  | c :: t => (base, c) :: indexed (base + c.utf8Size) t

theorem byteSize_eq_zero_iff {t : Text} : byteSize t = 0 ↔ t = [] := by
  cases t with
  | nil => simp
  | cons c t =>
    have := c.utf8Size_pos
    simp only [byteSize_cons, List.cons_ne_nil, iff_false]
    omega

theorem splitAt?_eq_some_iff {t front back : Text} {n : Nat} :
    splitAt? t n = some (front, back) ↔ t = front ++ back ∧ byteSize front = n := by
  induction t generalizing n front with
  | nil => cases n <;> cases front <;> simp [splitAt?, eq_comm]
  | cons c t ih =>
    have size := c.utf8Size_pos
    cases n with
    | zero =>
      rw [splitAt?, Option.some.injEq, Prod.mk.injEq, byteSize_eq_zero_iff]
      constructor
      · rintro ⟨rfl, rfl⟩
        exact ⟨rfl, rfl⟩
      · rintro ⟨whole, rfl⟩
        exact ⟨rfl, whole⟩
    | succ n =>
      cases front with
      | nil => simp [splitAt?]
      | cons d front =>
        simp only [splitAt?, Option.ite_none_right_eq_some, Option.map_eq_some_iff, Prod.exists,
          Prod.mk.injEq, List.cons.injEq, List.cons_append, byteSize_cons]
        constructor
        · rintro ⟨le, f, b, cut, ⟨rfl, rfl⟩, rfl⟩
          obtain ⟨rfl, length⟩ := ih.1 cut
          exact ⟨⟨rfl, rfl⟩, by omega⟩
        · rintro ⟨⟨rfl, rfl⟩, length⟩
          exact ⟨by omega, front, back, ih.2 ⟨rfl, by omega⟩, ⟨rfl, rfl⟩, rfl⟩

/-- Of two boundaries the smaller one comes first. -/
theorem prefix_of_byteSize_le {front back front' back' : Text}
    (whole : front ++ back = front' ++ back') (le : byteSize front ≤ byteSize front') :
    ∃ gap, front' = front ++ gap := by
  rcases List.append_eq_append_iff.1 whole with ⟨gap, rfl, _⟩ | ⟨gap, rfl, _⟩
  · exact ⟨gap, rfl⟩
  · have empty : gap = [] := by
      rw [byteSize_append] at le
      exact byteSize_eq_zero_iff.1 (by omega)
    exact ⟨[], by simp [empty]⟩

/-- A boundary is known by its byte offset. -/
theorem eq_of_byteSize_eq {front back front' back' : Text}
    (whole : front ++ back = front' ++ back') (size : byteSize front = byteSize front') :
    front = front' := by
  obtain ⟨gap, rfl⟩ := prefix_of_byteSize_le whole (Nat.le_of_eq size)
  have empty : byteSize gap = 0 := by
    rw [byteSize_append] at size
    omega
  rw [byteSize_eq_zero_iff.1 empty, List.append_nil]

end Text

/-- The stretch of a text between two byte offsets. -/
structure Slice where
  text : Text
  start : Nat
  stop : Nat
  deriving DecidableEq, Repr

namespace Slice

structure InRange (s : Slice) : Prop where
  ordered : s.start ≤ s.stop
  within : s.stop ≤ Text.byteSize s.text
  begins : Text.Boundary s.text s.start
  ends : Text.Boundary s.text s.stop

/-- Splits at the end first, then at the start. -/
def read? (s : Slice) : Option Text :=
  if s.start ≤ s.stop then
    match Text.splitAt? s.text s.stop with
    | none => none
    | some (front, _) => (Text.splitAt? front s.start).map Prod.snd
  else none

variable {s : Slice} {u : Text}

theorem read?_eq_some_iff :
    s.read? = some u ↔ ∃ front back, s.text = front ++ u ++ back ∧
      Text.byteSize front = s.start ∧ Text.byteSize (front ++ u) = s.stop := by
  constructor
  · intro h
    unfold read? at h
    split at h
    · split at h
      · cases h
      · next upTo back cut =>
        obtain ⟨⟨front, u'⟩, cut', rfl⟩ := Option.map_eq_some_iff.1 h
        obtain ⟨rfl, start⟩ := Text.splitAt?_eq_some_iff.1 cut'
        obtain ⟨whole, stop⟩ := Text.splitAt?_eq_some_iff.1 cut
        exact ⟨front, back, whole, start, stop⟩
    · cases h
  · rintro ⟨front, back, whole, start, stop⟩
    have ordered : s.start ≤ s.stop := by
      rw [← start, ← stop, Text.byteSize_append]
      exact Nat.le_add_right _ _
    have cut : Text.splitAt? s.text s.stop = some (front ++ u, back) :=
      Text.splitAt?_eq_some_iff.2 ⟨whole, stop⟩
    have cut' : Text.splitAt? (front ++ u) s.start = some (front, u) :=
      Text.splitAt?_eq_some_iff.2 ⟨rfl, start⟩
    simp [read?, ordered, cut, cut']

/-- The text from a byte offset on. -/
theorem read?_from {t front rest : Text} (whole : t = front ++ rest) :
    read? ⟨t, Text.byteSize front, Text.byteSize t⟩ = some rest :=
  read?_eq_some_iff.2 ⟨front, [], by rw [List.append_nil, whole], rfl, by rw [whole]⟩

theorem exists_front_of_read? {t rest : Text} {offset : Nat}
    (read : read? ⟨t, offset, Text.byteSize t⟩ = some rest) :
    ∃ front, t = front ++ rest ∧ Text.byteSize front = offset := by
  obtain ⟨front, back, whole, start, stop⟩ := read?_eq_some_iff.1 read
  have empty : Text.byteSize back = 0 := by
    have size := congrArg Text.byteSize whole
    simp only [Text.byteSize_append] at size stop
    omega
  rw [Text.byteSize_eq_zero_iff.1 empty, List.append_nil] at whole
  exact ⟨front, whole, start⟩

/-- Exactly the slices in range can be read. -/
theorem read?_isSome_iff : s.read?.isSome ↔ s.InRange := by
  rw [Option.isSome_iff_exists]
  constructor
  · rintro ⟨u, h⟩
    obtain ⟨front, back, whole, start, stop⟩ := read?_eq_some_iff.1 h
    refine ⟨?_, ?_, ⟨front, u ++ back, by simp [whole], start⟩, ⟨front ++ u, back, whole, stop⟩⟩
    · rw [← start, ← stop, Text.byteSize_append]
      exact Nat.le_add_right _ _
    · rw [whole, Text.byteSize_append, stop]
      exact Nat.le_add_right _ _
  · rintro ⟨ordered, _, ⟨front, behind, whole, start⟩, ⟨upTo, back, whole', stop⟩⟩
    have le : Text.byteSize front ≤ Text.byteSize upTo := start ▸ stop ▸ ordered
    obtain ⟨u, rfl⟩ := Text.prefix_of_byteSize_le (whole.symm.trans whole') le
    exact ⟨u, read?_eq_some_iff.2 ⟨front, back, whole', start, stop⟩⟩

theorem InRange.of_read? (h : s.read? = some u) : s.InRange :=
  read?_isSome_iff.1 (by rw [h, Option.isSome_some])

end Slice

/-- What stops a computation on byte offsets. -/
inductive Fault where
  | outOfRange (s : Slice)
  /-- One was taken from zero. -/
  | underflow
  deriving DecidableEq, Repr

/-- A computation with the slices it takes, up to its first fault. -/
structure Slicing (α : Type) where
  taken : List Slice
  result : Except Fault α

namespace Slicing

variable {α β : Type}

instance : Monad Slicing where
  pure a := ⟨[], .ok a⟩
  bind m f := match m.result with
    | .error fault => ⟨m.taken, .error fault⟩
    | .ok a => ⟨m.taken ++ (f a).taken, (f a).result⟩

def slice (s : Slice) : Slicing Text :=
  ⟨[s], match s.read? with
    | some u => .ok u
    | none => .error (.outOfRange s)⟩

/-- Takes a slice without a fault if it is out of range. -/
def slice? (s : Slice) : Slicing (Option Text) := ⟨[s], .ok s.read?⟩

def predecessor : Nat → Slicing Nat
  | 0 => ⟨[], .error .underflow⟩
  | n + 1 => pure n

/-- The computation ends with a value, and all slices it takes are in range. -/
structure Safe (m : Slicing α) (a : α) : Prop where
  result : m.result = .ok a
  inRange : ∀ s ∈ m.taken, s.InRange

variable {m : Slicing α} {f : α → Slicing β} {a : α} {b : β}

theorem Safe.pure (a : α) : Safe (Pure.pure a) a := ⟨rfl, by rintro s ⟨⟩⟩

theorem Safe.bind (h : m.Safe a) (next : (f a).Safe b) : (m >>= f).Safe b := by
  have whole : (m >>= f) = ⟨m.taken ++ (f a).taken, (f a).result⟩ := by
    change (match m.result with | .error fault => _ | .ok a => _) = _
    rw [h.result]
  rw [whole]
  refine ⟨next.result, fun s member => ?_⟩
  rcases List.mem_append.1 member with earlier | later
  · exact h.inRange s earlier
  · exact next.inRange s later

/-- The value of a safe computation is the only one. -/
theorem Safe.eq_of_result (h : m.Safe a) {a' : α} (result : m.result = .ok a') : a = a' :=
  Except.ok.inj (h.result.symm.trans result)

theorem slice_safe {s : Slice} {u : Text} (h : s.read? = some u) : (slice s).Safe u := by
  refine ⟨by simp [slice, h], fun s' member => ?_⟩
  cases List.mem_singleton.1 member
  exact .of_read? h

theorem slice?_safe {s : Slice} {u : Text} (h : s.read? = some u) :
    (slice? s).Safe (some u) := by
  refine ⟨by simp [slice?, h], fun s' member => ?_⟩
  cases List.mem_singleton.1 member
  exact .of_read? h

theorem predecessor_safe (n : Nat) : (predecessor (n + 1)).Safe n := Safe.pure n

end Slicing
end Phrasebook
