import Phrasebook.Failure
import Phrasebook.Text.Quoted
import Phrasebook.Value.Kind

/-! Parameters and the arguments a handler receives. Arguments are slots in the order of the
parameters; a slot may be empty. A name that was used twice means its first slot. -/
namespace Phrasebook

structure Param (ι : Type) [HostTypes ι] where
  name : Text
  kind : Kind ι

structure Slot (ι : Type) [HostTypes ι] where
  name : Text
  value? : Option (Value ι)

structure Arguments (ι : Type) [HostTypes ι] where
  slots : List (Slot ι)

namespace Arguments

variable {ι : Type} [HostTypes ι]

def empty : Arguments ι := ⟨[]⟩

def push (a : Arguments ι) (name : Text) (value? : Option (Value ι)) : Arguments ι :=
  ⟨a.slots ++ [⟨name, value?⟩]⟩

def insert (a : Arguments ι) (name : Text) (value : Value ι) : Arguments ι :=
  a.push name (some value)

def slot? (a : Arguments ι) (name : Text) : Option (Slot ι) :=
  a.slots.find? (·.name = name)

/-- Whatever the slot holds. -/
def any? (a : Arguments ι) (name : Text) : Option (Value ι) := (a.slot? name).bind (·.value?)

def contains (a : Arguments ι) (name : Text) : Bool := (a.any? name).isSome

def names (a : Arguments ι) : List Text := a.slots.map (·.name)

def size (a : Arguments ι) : Nat := a.slots.length

def isEmpty (a : Arguments ι) : Bool := a.slots.isEmpty

section Typed
variable [DecidableEq ι]

def get? (a : Arguments ι) (name : Text) (t : ValueType ι) : Option t.Carrier :=
  (a.any? name).bind (·.as? t)

def missing (name : Text) (t : ValueType ι) : Failure :=
  ⟨s!"Argument missing: '{name.string}' of type {t.fullName.string} not present", []⟩

def required (a : Arguments ι) (name : Text) (t : ValueType ι) : Except Failure t.Carrier :=
  match a.get? name t with
  | some content => .ok content
  | none => .error (missing name t)

/-- Empties a slot and looks at what was in it. A value of another type is put back. -/
def takeFrom (s : Slot ι) (t : ValueType ι) : Option t.Carrier × Slot ι :=
  let emptied : Slot ι := { s with value? := none }
  match s.value? with
  | none => (none, emptied)
  | some value =>
    match value.as? t with
    | some content => (some content, emptied)
    | none => (none, { emptied with value? := some value })

/-- Takes from the first slot of a name. -/
def takeFirst (name : Text) (t : ValueType ι) : List (Slot ι) → Option t.Carrier × List (Slot ι)
  | [] => (none, [])
  | s :: more =>
    if s.name = name then
      let (content?, left) := takeFrom s t
      (content?, left :: more)
    else
      let (content?, left) := takeFirst name t more
      (content?, s :: left)

def take (a : Arguments ι) (name : Text) (t : ValueType ι) : Option t.Carrier × Arguments ι :=
  let (content?, left) := takeFirst name t a.slots
  (content?, ⟨left⟩)

end Typed

def debugSlot (s : Slot ι) : String :=
  (Text.quoted s.name).string ++ if s.value?.isSome then ": \"<value>\"" else ": \"<absent>\""

def debug (a : Arguments ι) : String :=
  "\x7b" ++ String.intercalate ", " (a.slots.map debugSlot) ++ "\x7d"

end Arguments
end Phrasebook
