import Phrasebook.Failure
import Phrasebook.Number.Decimal
import Phrasebook.Text.Blank
import Phrasebook.Value.Type

/-! Built-in conversions from captured text. White space around the text does not count,
except for texts and single characters. -/
namespace Phrasebook.Convert

def readBool (raw : Text) : Except Failure Bool :=
  let word := (Text.trim raw).map Char.toLower
  if word = "true".toList then .ok true
  else if word = "false".toList then .ok false
  else .error ⟨s!"'{raw.string}' is not a valid boolean", []⟩

def readChar (raw : Text) : Except Failure Char :=
  match raw with
  | [c] => .ok c
  | _ => .error ⟨s!"'{raw.string}' is not exactly one character", []⟩

def readInteger (t : IntType) (raw : Text) : Except Failure (Bounded t) :=
  (Number.readInteger t (Text.trim raw)).mapError fun e => ⟨e.message, []⟩

def readFloat (f : BinaryFormat) (raw : Text) : Except Failure Nat :=
  (Number.readFloat f (Text.trim raw)).mapError fun e => ⟨e.message, []⟩

def readBuiltin : (t : BuiltinType) → Text → Except Failure t.Carrier
  | .text, raw => .ok raw
  | .bool, raw => readBool raw
  | .char, raw => readChar raw
  | .integer t, raw => readInteger t raw
  | .float32, raw => (readFloat binary32 raw).map UInt32.ofNat
  | .float64, raw => (readFloat binary64 raw).map UInt64.ofNat

end Phrasebook.Convert
