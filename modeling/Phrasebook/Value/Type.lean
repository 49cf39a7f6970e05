import Phrasebook.Number.Integer
import Phrasebook.Value.TypeName

/-! The types that an argument can have. Some are built in; the host adds its own, each with
a carrier and a full name. A value is a type and an inhabitant of the type's carrier. -/
namespace Phrasebook

inductive BuiltinType where
  | text
  | bool
  | char
  | integer (type : IntType)
  | float32
  | float64
  deriving DecidableEq, Repr

namespace BuiltinType

/-- Floating-point numbers are carried as their bits. -/
abbrev Carrier : BuiltinType → Type
  | text => Text
  | bool => Bool
  | char => Char
  | integer type => Bounded type
  | float32 => UInt32
  | float64 => UInt64

def fullName : BuiltinType → Text
  | text => "alloc::string::String".toList
  | bool => "bool".toList
  | char => "char".toList
  | integer type => type.name
  | float32 => "f32".toList
  | float64 => "f64".toList

def default : (t : BuiltinType) → t.Carrier
  | text => []
  | bool => false
  | char => '\x00'
  | integer type => Bounded.zero type
  | float32 => 0
  | float64 => 0

end BuiltinType

/-- Types that a host brings along. -/
class HostTypes (ι : Type) where
  Carrier : ι → Type
  fullName : ι → Text

inductive ValueType (ι : Type) where
  | builtin (type : BuiltinType)
  | host (type : ι)
  deriving DecidableEq, Repr

namespace ValueType

variable {ι : Type} [HostTypes ι]

abbrev Carrier : ValueType ι → Type
  | builtin type => type.Carrier
  | host type => HostTypes.Carrier type

def fullName : ValueType ι → Text
  | builtin type => type.fullName
  | host type => HostTypes.fullName type

def name (t : ValueType ι) : Text := TypeName.short t.fullName

end ValueType

structure Value (ι : Type) [HostTypes ι] where
  type : ValueType ι
  content : type.Carrier

namespace Value

variable {ι : Type} [HostTypes ι] [DecidableEq ι]

/-- The content, if the value is of the given type. -/
def as? (v : Value ι) (t : ValueType ι) : Option t.Carrier :=
  if h : v.type = t then some (h ▸ v.content) else none

end Value
end Phrasebook
