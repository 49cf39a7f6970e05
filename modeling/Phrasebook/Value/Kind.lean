import Phrasebook.Value.Type
import Phrasebook.Text.Quoted

/-! The kind of a parameter: a type, and the value that stands in when nothing was captured.
Two kinds of one type count as equal, with or without a default. -/
namespace Phrasebook

structure Kind (ι : Type) [HostTypes ι] where
  type : ValueType ι
  default? : Option type.Carrier

namespace Kind

variable {ι : Type} [HostTypes ι]

def required (type : ValueType ι) : Kind ι := ⟨type, none⟩

def withDefault (type : ValueType ι) (default : type.Carrier) : Kind ι := ⟨type, some default⟩

def builtin (type : BuiltinType) : Kind ι := withDefault (.builtin type) type.default

def name (k : Kind ι) : Text := k.type.name

def sameType [DecidableEq ι] (k l : Kind ι) : Bool := k.type = l.type

def defaultValue? (k : Kind ι) : Option (Value ι) := k.default?.map (⟨k.type, ·⟩)

def debug (k : Kind ι) : String :=
  let name := (Text.quoted k.name).string
  s!"ValueKind \x7b name: {name}, has_default: {k.default?.isSome} \x7d"

end Kind
end Phrasebook
