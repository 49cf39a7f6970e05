import Mathlib.Data.List.Induction
import Phrasebook.Arguments

/-! Arguments in use. A name means the first slot that was put down under it, whatever is put down
later. Its value is handed out at most once: a taker of another type leaves it where it is, and
after one of the right type the name is absent for good. -/
namespace Phrasebook

theorem Value.as?_eq_some_iff {ι : Type} [HostTypes ι] [DecidableEq ι] {v : Value ι} {t : ValueType ι}
    {content : t.Carrier} : v.as? t = some content ↔ v = ⟨t, content⟩ := by
  obtain ⟨type, inside⟩ := v
  unfold Value.as?
  split
  · next same =>
    cases same
    simp
  · next other =>
    refine iff_of_false nofun fun same => other ?_
    cases same
    rfl

namespace Arguments

variable {ι : Type} [HostTypes ι] {a b : Arguments ι} {slots : List (Slot ι)} {name other : Text}

/-- The value in the first slot of a name. -/
def valueIn? (slots : List (Slot ι)) (name : Text) : Option (Value ι) :=
  (slots.find? (·.name = name)).bind (·.value?)

theorem any?_eq (a : Arguments ι) (name : Text) : a.any? name = valueIn? a.slots name := rfl

theorem valueIn?_of_notMem (absent : name ∉ slots.map (·.name)) : valueIn? slots name = none := by
  have nowhere : slots.find? (·.name = name) = none := by simpa using absent
  rw [valueIn?, nowhere]
  rfl

/-- A slot behind one of the same name does not count. -/
theorem valueIn?_append_of_mem (present : name ∈ slots.map (·.name)) (more : List (Slot ι)) :
    valueIn? (slots ++ more) name = valueIn? slots name := by
  have somewhere : (slots.find? (·.name = name)).isSome = true := by simpa using present
  obtain ⟨s, found⟩ := Option.isSome_iff_exists.1 somewhere
  rw [valueIn?, valueIn?, List.find?_append, found, Option.some_or]

theorem valueIn?_append_of_notMem (absent : name ∉ slots.map (·.name)) (more : List (Slot ι)) :
    valueIn? (slots ++ more) name = valueIn? more name := by
  have nowhere : slots.find? (·.name = name) = none := by simpa using absent
  rw [valueIn?, valueIn?, List.find?_append, nowhere, Option.none_or]

theorem valueIn?_cons_self (s : Slot ι) (more : List (Slot ι)) :
    valueIn? (s :: more) s.name = s.value? := by simp [valueIn?]

theorem valueIn?_cons_of_ne {s : Slot ι} (differ : s.name ≠ name) (more : List (Slot ι)) :
    valueIn? (s :: more) name = valueIn? more name := by simp [valueIn?, differ]

theorem insert_any?_of_mem (present : name ∈ a.names) (other : Text) (value : Value ι) :
    (a.insert other value).any? name = a.any? name :=
  valueIn?_append_of_mem present _

theorem exists_first (present : name ∈ slots.map (·.name)) :
    ∃ front s back, slots = front ++ s :: back ∧ s.name = name ∧ name ∉ front.map (·.name) := by
  obtain ⟨front, back, split, absent⟩ := List.eq_append_cons_of_mem present
  obtain ⟨before, rest, rfl, rfl, named⟩ := List.map_eq_append_iff.1 split
  obtain ⟨s, after, rfl, same, _⟩ := List.map_eq_cons_iff.1 named
  exact ⟨before, s, after, rfl, same, absent⟩

/-- Something done with arguments, by their owner or by a handler. -/
inductive Use (ι : Type) [HostTypes ι] where
  | insert (name : Text) (value : Value ι)
  | get (name : Text) (type : ValueType ι)
  | take (name : Text) (type : ValueType ι)
  | contains (name : Text)

/-- The slot that a use puts down. -/
def Use.slot? : Use ι → Option (Slot ι)
  | .insert name value => some ⟨name, some value⟩
  | _ => none

/-- All slots as they were put down: those at the start and those put down by some uses. -/
def laid (a : Arguments ι) (uses : List (Use ι)) : List (Slot ι) :=
  a.slots ++ uses.filterMap Use.slot?

/-- The value that was put down first under a name. -/
def first? (a : Arguments ι) (uses : List (Use ι)) (name : Text) : Option (Value ι) :=
  valueIn? (a.laid uses) name

/-- Among the uses there is a taker of the type of the value that was put down first, and it came
after the value. -/
def Given (a : Arguments ι) (uses : List (Use ι)) (name : Text) : Prop :=
  ∃ earlier later value, uses = earlier ++ .take name value.type :: later ∧
    a.first? earlier name = some value

section Laid

variable {uses : List (Use ι)} {use : Use ι} {value : Value ι}

theorem laid_append (a : Arguments ι) (uses later : List (Use ι)) :
    a.laid (uses ++ later) = a.laid uses ++ later.filterMap Use.slot? := by
  simp [laid]

theorem laid_concat (a : Arguments ι) (uses : List (Use ι)) (use : Use ι) :
    a.laid (uses ++ [use]) = a.laid uses ++ use.slot?.toList := by
  rw [laid_append]
  cases use <;> rfl

theorem first?_concat_of_slot?_eq_none (puts : use.slot? = none) (a : Arguments ι)
    (uses : List (Use ι)) (name : Text) : a.first? (uses ++ [use]) name = a.first? uses name := by
  rw [first?, laid_concat, puts, Option.toList_none, List.append_nil, first?]

/-- What is put down later under a name that is in use stays out of sight. -/
theorem first?_append (present : name ∈ (a.laid uses).map (·.name)) (later : List (Use ι)) :
    a.first? (uses ++ later) name = a.first? uses name := by
  rw [first?, laid_append]
  exact valueIn?_append_of_mem present _

theorem mem_laid_of_first? (found : a.first? uses name = some value) :
    name ∈ (a.laid uses).map (·.name) := by
  by_contra absent
  rw [first?, valueIn?_of_notMem absent] at found
  cases found

theorem Given.append (h : a.Given uses name) (later : List (Use ι)) : a.Given (uses ++ later) name := by
  obtain ⟨earlier, between, value, rfl, found⟩ := h
  exact ⟨earlier, between ++ later, value, by simp, found⟩

theorem Given.mem_laid (h : a.Given uses name) : name ∈ (a.laid uses).map (·.name) := by
  obtain ⟨earlier, later, value, rfl, found⟩ := h
  rw [laid_append, List.map_append]
  exact List.mem_append_left _ (mem_laid_of_first? found)

theorem given_concat_iff : a.Given (uses ++ [use]) name ↔
    a.Given uses name ∨ ∃ value, use = .take name value.type ∧ a.first? uses name = some value := by
  constructor
  · rintro ⟨earlier, later, value, split, found⟩
    rcases List.eq_nil_or_concat later with rfl | ⟨later, last, rfl⟩
    · obtain ⟨rfl, same⟩ := List.append_inj' split rfl
      cases same
      exact .inr ⟨value, rfl, found⟩
    · rw [List.concat_eq_append, ← List.cons_append, ← List.append_assoc] at split
      obtain ⟨rfl, _⟩ := List.append_inj' split rfl
      exact .inl ⟨earlier, later, value, rfl, found⟩
  · rintro (given | ⟨value, rfl, found⟩)
    · exact given.append [use]
    · exact ⟨uses, [], value, rfl, found⟩

theorem given_concat_of_ne_take (differ : ∀ t, use ≠ .take name t) :
    a.Given (uses ++ [use]) name ↔ a.Given uses name := by
  rw [given_concat_iff]
  exact or_iff_left fun ⟨value, same, _⟩ => differ _ same

end Laid

variable [DecidableEq ι] {t : ValueType ι}

section Take

theorem get?_eq_some_iff {content : t.Carrier} :
    a.get? name t = some content ↔ a.any? name = some ⟨t, content⟩ := by
  rw [get?, Option.bind_eq_some_iff]
  simp only [Value.as?_eq_some_iff, exists_eq_right]

/-- A slot is emptied by a taker of its value's type, and left as it was otherwise. -/
theorem takeFrom_eq (s : Slot ι) (t : ValueType ι) :
    takeFrom s t = match s.value?.bind (·.as? t) with
      | some content => (some content, ⟨s.name, none⟩)
      | none => (none, s) := by
  obtain ⟨name, value?⟩ := s
  unfold takeFrom
  cases value? with
  | none => rfl
  | some value => cases fits : value.as? t <;> simp [fits]

theorem takeFirst_absent (absent : name ∉ slots.map (·.name)) :
    takeFirst name t slots = (none, slots) := by
  induction slots with
  | nil => rfl
  | cons s slots ih =>
    rw [List.map_cons, List.mem_cons, not_or] at absent
    rw [takeFirst, if_neg (Ne.symm absent.1), ih absent.2]

theorem takeFirst_present {front back : List (Slot ι)} {s : Slot ι}
    (first : s.name ∉ front.map (·.name)) :
    takeFirst s.name t (front ++ s :: back) =
      ((takeFrom s t).1, front ++ (takeFrom s t).2 :: back) := by
  induction front with
  | nil => rw [List.nil_append, takeFirst, if_pos rfl]; rfl
  | cons r front ih =>
    rw [List.map_cons, List.mem_cons, not_or] at first
    rw [List.cons_append, takeFirst, if_neg (Ne.symm first.1), ih first.2]
    rfl

/-- Either nothing of the type is there, and nothing changes, or the first slot of the name is
emptied and every other one stays. -/
theorem take_cases (a : Arguments ι) (name : Text) (t : ValueType ι) :
    (a.get? name t = none ∧ a.take name t = (none, a)) ∨
    ∃ content front back, a.get? name t = some content ∧
      a.slots = front ++ ⟨name, some ⟨t, content⟩⟩ :: back ∧ name ∉ front.map (·.name) ∧
      a.take name t = (some content, ⟨front ++ ⟨name, none⟩ :: back⟩) := by
  by_cases present : name ∈ a.slots.map (·.name)
  · obtain ⟨front, s, back, split, rfl, first⟩ := exists_first present
    have value : a.any? s.name = s.value? := by
      rw [any?_eq, split, valueIn?_append_of_notMem first, valueIn?_cons_self]
    obtain ⟨name, value?⟩ := s
    dsimp only at value first ⊢
    rw [get?, value, take, split, takeFirst_present (s := ⟨name, value?⟩) first, takeFrom_eq]
    cases held : value?.bind (·.as? t) with
    | none => exact .inl ⟨rfl, by simp [← split]⟩
    | some content =>
      obtain ⟨v, rfl, fits⟩ := Option.bind_eq_some_iff.1 held
      cases Value.as?_eq_some_iff.1 fits
      exact .inr ⟨content, front, back, rfl, rfl, first, rfl⟩
  · have nothing : a.any? name = none := valueIn?_of_notMem present
    refine .inl ⟨by rw [get?, nothing]; rfl, ?_⟩
    rw [take, takeFirst_absent present]

end Take

/-- What a use leaves. -/
def used (a : Arguments ι) : Use ι → Arguments ι
  | .insert name value => a.insert name value
  | .take name type => (a.take name type).2
  | .get _ _ | .contains _ => a

def after : Arguments ι → List (Use ι) → Arguments ι
  | a, [] => a
  | a, use :: more => (a.used use).after more

section Uses

variable {uses : List (Use ι)} {value : Value ι}

theorem after_append (a : Arguments ι) (uses later : List (Use ι)) :
    a.after (uses ++ later) = (a.after uses).after later := by
  induction uses generalizing a with
  | nil => rfl
  | cons use uses ih => exact ih (a.used use)

theorem used_names (a : Arguments ι) (use : Use ι) :
    (a.used use).names = a.names ++ use.slot?.toList.map (·.name) := by
  cases use with
  | insert name value => simp [used, insert, push, names, Use.slot?]
  | get name type => simp [used, Use.slot?]
  | contains name => simp [used, Use.slot?]
  | take name type =>
    rw [used]
    rcases a.take_cases name type with ⟨_, same⟩ | ⟨content, front, back, _, split, _, taken⟩
    · simp [same, Use.slot?]
    · simp [taken, names, split, Use.slot?]

theorem after_names (a : Arguments ι) (uses : List (Use ι)) :
    (a.after uses).names = (a.laid uses).map (·.name) := by
  induction uses using List.reverseRecOn with
  | nil => simp [after, laid, names]
  | append_singleton uses use ih =>
    rw [after_append, after, after, used_names, ih, laid_concat, List.map_append]

/-- Only the slot of its name is emptied by a taker. -/
theorem take_any?_of_ne (differ : name ≠ other) (a : Arguments ι) (t : ValueType ι) :
    ((a.take name t).2).any? other = a.any? other := by
  rcases a.take_cases name t with ⟨_, same⟩ | ⟨content, front, back, _, split, _, taken⟩
  · rw [same]
  · simp only [any?_eq, taken, split]
    by_cases present : other ∈ front.map (·.name)
    · rw [valueIn?_append_of_mem present, valueIn?_append_of_mem present]
    · rw [valueIn?_append_of_notMem present, valueIn?_append_of_notMem present,
        valueIn?_cons_of_ne differ, valueIn?_cons_of_ne differ]

theorem take_of_get?_eq_none (nothing : a.get? name t = none) : a.take name t = (none, a) :=
  ((a.take_cases name t).resolve_right fun ⟨_, _, _, found, _⟩ =>
    Option.some_ne_none _ (found.symm.trans nothing)).2

theorem take_any?_self {content : t.Carrier} (found : a.get? name t = some content) :
    ((a.take name t).2).any? name = none := by
  rcases a.take_cases name t with ⟨nothing, _⟩ | ⟨content, front, back, _, _, first, taken⟩
  · rw [nothing] at found
    cases found
  · rw [any?_eq, taken, valueIn?_append_of_notMem first, valueIn?_cons_self ⟨name, none⟩]

/-- The value of a name is the one that was put down first, until it is given away. -/
theorem after_any? (a : Arguments ι) (uses : List (Use ι)) (name : Text) :
    (a.Given uses name → (a.after uses).any? name = none) ∧
    (¬ a.Given uses name → (a.after uses).any? name = a.first? uses name) := by
  induction uses using List.reverseRecOn with
  | nil =>
    refine ⟨?_, fun _ => ?_⟩
    · rintro ⟨earlier, later, value, split, _⟩
      simp at split
    · simp [after, first?, laid, any?_eq]
  | append_singleton uses use ih =>
    obtain ⟨gone, kept⟩ := ih
    have names := a.after_names uses
    rw [after_append, after, after]
    cases use with
    | get other type | contains other =>
      rw [given_concat_of_ne_take (by simp), first?_concat_of_slot?_eq_none rfl]
      exact ⟨gone, kept⟩
    | insert other value =>
      rw [given_concat_of_ne_take (by simp), used]
      by_cases present : name ∈ (a.laid uses).map (·.name)
      · rw [insert_any?_of_mem (names ▸ present), first?_append present]
        exact ⟨gone, kept⟩
      · refine ⟨fun given => absurd given.mem_laid present, fun _ => ?_⟩
        rw [first?, laid_concat, valueIn?_append_of_notMem present]
        rw [← names] at present
        exact valueIn?_append_of_notMem present _
    | take other type =>
      rw [first?_concat_of_slot?_eq_none rfl, used]
      by_cases same : other = name
      · subst same
        rw [given_concat_iff]
        cases found : (a.after uses).get? other type with
        | none =>
          rw [take_of_get?_eq_none found]
          refine ⟨?_, fun fresh => kept fun given => fresh (.inl given)⟩
          rintro (given | ⟨value, use, first⟩)
          · exact gone given
          · cases use
            by_contra filled
            have held := (kept (mt gone filled)).trans first
            rw [get?_eq_some_iff.2 held] at found
            cases found
        | some content =>
          have held := get?_eq_some_iff.1 found
          refine ⟨fun _ => take_any?_self found, fun fresh => absurd ?_ fresh⟩
          by_cases given : a.Given uses other
          · exact .inl given
          · exact .inr ⟨⟨type, content⟩, rfl, (kept given).symm.trans held⟩
      · rw [given_concat_of_ne_take (by simpa using same), take_any?_of_ne same]
        exact ⟨gone, kept⟩

/-- The type is right for a taker and the value is still there. -/
theorem after_get?_eq_some_iff {content : t.Carrier} :
    (a.after uses).get? name t = some content ↔
      ¬ a.Given uses name ∧ a.first? uses name = some ⟨t, content⟩ := by
  obtain ⟨gone, kept⟩ := a.after_any? uses name
  rw [get?_eq_some_iff]
  by_cases given : a.Given uses name
  · simp [gone given, given]
  · rw [kept given, and_iff_right given]

theorem after_contains_iff :
    (a.after uses).contains name = true ↔
      ¬ a.Given uses name ∧ (a.first? uses name).isSome = true := by
  obtain ⟨gone, kept⟩ := a.after_any? uses name
  rw [contains]
  by_cases given : a.Given uses name
  · simp [gone given, given]
  · rw [kept given, and_iff_right given]

/-- Whoever asks for the name, in whatever way, gets nothing. -/
def Absent (a : Arguments ι) (name : Text) : Prop :=
  a.contains name = false ∧ ∀ t, a.get? name t = none ∧ a.take name t = (none, a)

theorem absent_of_any?_eq_none (nothing : a.any? name = none) : a.Absent name := by
  have unseen (t : ValueType ι) : a.get? name t = none := by rw [get?, nothing, Option.bind_none]
  refine ⟨by rw [contains, nothing, Option.isSome_none], fun t => ⟨unseen t, ?_⟩⟩
  exact take_of_get?_eq_none (unseen t)

/-- A name that has a slot and no value stays without one: what is put down under it is not seen. -/
theorem any?_after_of_mem (present : name ∈ a.names) (nothing : a.any? name = none)
    (later : List (Use ι)) : (a.after later).any? name = none := by
  obtain ⟨gone, kept⟩ := a.after_any? later name
  by_cases given : a.Given later name
  · exact gone given
  · rw [kept given, first?, laid, valueIn?_append_of_mem present]
    exact nothing

/-- At every moment the names are those that were put down, in order. A value is found under its
name and its type as long as none before took it so, and it is the value that was put down first,
which no later one displaces. Whoever asks for another type changes nothing. A taker of the right
type empties the one slot, and the name is absent from then on. -/
theorem handed_out_once (a : Arguments ι) (uses : List (Use ι)) (name : Text) :
    (a.after uses).names = a.names ++ (uses.filterMap Use.slot?).map (·.name) ∧
    (name ∈ (a.after uses).names → ∀ later, a.first? (uses ++ later) name = a.first? uses name) ∧
    ((a.after uses).contains name = true ↔
      ¬ a.Given uses name ∧ (a.first? uses name).isSome = true) ∧
    ∀ t, ((a.after uses).take name t).1 = (a.after uses).get? name t ∧
      ((a.after uses).get? name t = none → ((a.after uses).take name t).2 = a.after uses) ∧
      ∀ content,
        ((a.after uses).get? name t = some content ↔
          ¬ a.Given uses name ∧ a.first? uses name = some ⟨t, content⟩) ∧
        ((a.after uses).get? name t = some content →
          (∃ front back, (a.after uses).slots = front ++ ⟨name, some ⟨t, content⟩⟩ :: back ∧
            name ∉ front.map (·.name) ∧
            ((a.after uses).take name t).2.slots = front ++ ⟨name, none⟩ :: back) ∧
          ∀ later, ((((a.after uses).take name t).2).after later).Absent name) := by
  have named := a.after_names uses
  refine ⟨?_, fun present later => ?_, after_contains_iff, fun t => ?_⟩
  · rw [named, laid, List.map_append]
    rfl
  · rw [named] at present
    exact first?_append present later
  rcases (a.after uses).take_cases name t with
    ⟨nothing, same⟩ | ⟨content, front, back, found, split, first, taken⟩
  · refine ⟨by rw [same, nothing], fun _ => by rw [same], fun content => ?_⟩
    refine ⟨after_get?_eq_some_iff, fun found => ?_⟩
    rw [nothing] at found
    cases found
  · refine ⟨by rw [taken, found], fun nothing => ?_, fun content' => ?_⟩
    · rw [nothing] at found
      cases found
    refine ⟨after_get?_eq_some_iff, fun found' => ?_⟩
    cases found.symm.trans found'
    have gone := take_any?_self found
    rw [taken] at gone ⊢
    refine ⟨⟨front, back, split, first, rfl⟩, fun later => absent_of_any?_eq_none ?_⟩
    exact any?_after_of_mem (by simp [names]) gone later

end Uses

end Arguments
end Phrasebook
