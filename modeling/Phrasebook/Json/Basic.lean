import Phrasebook.Text.Basic

/-! The values in which handlers answer. An integer and a floating-point number are different
values; the latter is given by its bits. -/
namespace Phrasebook

inductive Json where
  | null
  | bool (value : Bool)
  | integer (value : Int)
  | float (bits : UInt64)
  | text (value : Text)
  | array (items : List Json)
  | object (fields : List (Text × Json))

namespace Json

/-- Puts a field into its place by name. A field of that name is replaced. -/
def putField (name : Text) (value : Json) : List (Text × Json) → List (Text × Json)
  | [] => [(name, value)]
  | (other, old) :: more =>
    if name = other then (name, value) :: more
    else if name < other then (name, value) :: (other, old) :: more
    else (other, old) :: putField name value more

/-- An object with its fields ordered by name; of fields of one name the last counts. -/
def ofFields (fields : List (Text × Json)) : Json :=
  .object (fields.foldl (fun sorted (name, value) => putField name value sorted) [])

def ofString (s : String) : Json := .text s.toList

def ofOption : Option Json → Json
  | none => .null
  | some value => .array [value]

/-- No value where the value is null. -/
def nonNull? : Json → Option Json
  | .null => none
  | value => some value

def integer? : Json → Option Int
  | .integer n => some n
  | _ => none

end Json
end Phrasebook
