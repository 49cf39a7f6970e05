import Phrasebook.Json.Basic
import Phrasebook.Number.Binary
import Phrasebook.Number.Integer

/-! Reading an answer back under the shape that the reader expects. Numbers and texts are
never converted into each other, and a floating-point number is no integer. -/
namespace Phrasebook

inductive Shape where
  | text
  | integer (type : IntType)
  | float
  | bool
  | char
  | texts
  /-- An object of 32-bit counts. -/
  | counts
  /-- Two 32-bit counts, the second of which may be null. -/
  | countPair
  | countOrNull
  | null
  | anything
  deriving DecidableEq, Repr

namespace Shape

def fits (t : IntType) (n : Int) : Bool := -(t.depth : Int) ≤ n && n ≤ t.height

def isCount : Json → Bool
  | .integer n => fits ⟨false, .bits32⟩ n
  | _ => false

def isCountOrNull : Json → Bool
  | .null => true
  | value => isCount value

def isText : Json → Bool
  | .text _ => true
  | _ => false

/-- The value as a value of the shape, if it has the shape. -/
def read? : Shape → Json → Option Json
  | .text, .text t => some (.text t)
  | .integer t, .integer n => if fits t n then some (.integer n) else none
  | .float, .integer n => some (.float (UInt64.ofNat (binary64.ofInt n)))
  | .float, .float bits => some (.float bits)
  | .bool, .bool b => some (.bool b)
  | .char, .text [c] => some (.text [c])
  | .texts, .array items => if items.all isText then some (.array items) else none
  | .counts, .object fields =>
    if fields.all fun (_, value) => isCount value then some (.object fields) else none
  | .countPair, .array [first, second] =>
    if isCount first && isCountOrNull second then some (.array [first, second]) else none
  | .countOrNull, value => if isCountOrNull value then some value else none
  | .null, .null => some .null
  | .anything, value => some value
  | _, _ => none

end Shape
end Phrasebook
