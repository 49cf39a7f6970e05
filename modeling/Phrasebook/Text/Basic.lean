/-! Texts as lists of characters. Positions in a text are counted in the bytes of its
UTF-8 form, so every character has a size of one to four. -/
namespace Phrasebook

abbrev Text := List Char

namespace Text

/-- The bytes that the text takes in UTF-8. -/
def byteSize : Text → Nat
  | [] => 0
  | c :: t => c.utf8Size + byteSize t

@[simp] theorem byteSize_nil : byteSize [] = 0 := rfl

@[simp] theorem byteSize_cons (c : Char) (t : Text) :
    byteSize (c :: t) = c.utf8Size + byteSize t := rfl

@[simp] theorem byteSize_append (t u : Text) : byteSize (t ++ u) = byteSize t + byteSize u := by
  induction t with
  | nil => simp
  | cons c t ih => simp [ih]; omega

def string (t : Text) : String := String.ofList t

/-- The pieces between separators. A text without one is a single piece, so the list is
never empty. -/
def pieces (separator : Char) : Text → List Text
  | [] => [[]]
  | c :: rest =>
    if c = separator then [] :: pieces separator rest
    else match pieces separator rest with
      | [] => [[c]]
      | piece :: more => (c :: piece) :: more

theorem pieces_ne_nil (separator : Char) (t : Text) : pieces separator t ≠ [] := by
  cases t with
  | nil => simp [pieces]
  | cons c rest =>
    unfold pieces
    split
    · simp
    · split <;> simp

/-- The text before and after the first mark, if there is a mark. -/
def cutAt? (mark : Char) : Text → Option (Text × Text)
  | [] => none
  | c :: rest =>
    if c = mark then some ([], rest)
    else (cutAt? mark rest).map fun (before, after) => (c :: before, after)

theorem cutAt?_eq_none_iff {mark : Char} {t : Text} : cutAt? mark t = none ↔ mark ∉ t := by
  induction t with
  | nil => simp [cutAt?]
  | cons c rest ih =>
    by_cases h : c = mark
    · simp [cutAt?, h]
    · simp [cutAt?, h, ih, Ne.symm h]

theorem cutAt?_eq_some_iff {mark : Char} {t before after : Text} :
    cutAt? mark t = some (before, after) ↔ t = before ++ mark :: after ∧ mark ∉ before := by
  induction t generalizing before with
  | nil => simp [cutAt?]
  | cons c rest ih =>
    by_cases h : c = mark
    · subst h
      cases before with
      | nil => simp [cutAt?, eq_comm]
      | cons d before => simp [cutAt?]; intro h; simp [h]
    · cases before with
      | nil => simp [cutAt?, h]
      | cons d before =>
        simp only [cutAt?, h, if_false, Option.map_eq_some_iff, Prod.mk.injEq, List.cons.injEq,
          List.cons_append, List.mem_cons, not_or, Prod.exists]
        constructor
        · rintro ⟨b, a, cut, ⟨rfl, rfl⟩, rfl⟩
          have := ih.1 cut
          exact ⟨⟨rfl, this.1⟩, Ne.symm h, this.2⟩
        · rintro ⟨⟨rfl, rfl⟩, _, absent⟩
          exact ⟨before, after, ih.2 ⟨rfl, absent⟩, ⟨rfl, rfl⟩, rfl⟩

/-- The texts with a separator between neighbours. -/
def joined (separator : Text) : List Text → Text
  | [] => []
  | [t] => t
  | t :: u :: more => t ++ separator ++ joined separator (u :: more)

/-- Pieces are cut at every separator and nowhere else, so joining them undoes it. -/
theorem joined_pieces (separator : Char) (t : Text) :
    joined [separator] (pieces separator t) = t := by
  induction t with
  | nil => rfl
  | cons c rest ih =>
    have some := pieces_ne_nil separator rest
    unfold pieces
    split
    · subst c
      cases h : pieces separator rest with
      | nil => exact absurd h some
      | cons piece more => rw [h] at ih; simp [joined, ih]
    · cases h : pieces separator rest with
      | nil => exact absurd h some
      | cons piece more =>
        rw [h] at ih
        cases more with
        | nil => simpa [joined] using ih
        | cons next more => simpa [joined] using ih

/-- The text without its longest ending of characters of a class. -/
def dropEnd (ending : Char → Bool) (t : Text) : Text :=
  (t.reverse.dropWhile ending).reverse

theorem dropEnd_eq_iff {ending : Char → Bool} {t front : Text} :
    dropEnd ending t = front ↔ ∃ dropped, t = front ++ dropped ∧
      (∀ c ∈ dropped, ending c = true) ∧ ∀ c, front.getLast? = some c → ending c = false := by
  constructor
  · rintro rfl
    refine ⟨(t.reverse.takeWhile ending).reverse, ?_, fun c member => ?_, fun c last => ?_⟩
    · rw [dropEnd, ← List.reverse_append, List.takeWhile_append_dropWhile, List.reverse_reverse]
    · exact List.all_eq_true.1 List.all_takeWhile c (List.mem_reverse.1 member)
    · rw [dropEnd, List.getLast?_reverse] at last
      have kept := List.head?_dropWhile_not ending t.reverse
      rwa [last] at kept
  · rintro ⟨dropped, rfl, all, last⟩
    have all' : ∀ c ∈ dropped.reverse, ending c = true := fun c member =>
      all c (List.mem_reverse.1 member)
    rw [dropEnd, List.reverse_append, List.dropWhile_append_of_pos all']
    rw [← List.head?_reverse] at last
    cases kept : front.reverse with
    | nil => rw [← List.reverse_reverse front, kept]; rfl
    | cons c more =>
      rw [kept] at last
      rw [List.dropWhile_cons_of_neg (by simp [last c rfl]), ← kept, List.reverse_reverse]

end Text
end Phrasebook
