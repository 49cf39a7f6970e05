import Phrasebook.Failure
import Phrasebook.Json.Basic
import Phrasebook.Number.Binary
import Phrasebook.Value.Kind

/-! Types that scripted controllers use beside the built-in ones, and how values are written
down. A type that belongs to a host is known by the path of its home. -/
namespace Phrasebook.Script

def int32 : IntType := ⟨true, .bits32⟩
def word32 : IntType := ⟨false, .bits32⟩

inductive HostType where
  | texts
  | bytes
  /-- A numbered text or nothing. -/
  | numbered
  | celsius (home : Text)
  | opaqueToken (home : Text)
  | ages (home : Text)
  /-- Any other type: only its name is known. -/
  | foreign (fullName : Text)
  deriving DecidableEq, Repr

abbrev HostType.Carrier : HostType → Type
  | .texts => List Text
  | .bytes => List UInt8
  | .numbered => Option (Bounded int32 × Text)
  | .celsius _ => UInt64
  | .opaqueToken _ => Unit
  | .ages _ => List (Text × Bounded word32)
  | .foreign _ => Unit

def HostType.fullName : HostType → Text
  | .texts => "alloc::vec::Vec<alloc::string::String>".toList
  | .bytes => "alloc::vec::Vec<u8>".toList
  | .numbered => "core::option::Option<(i32, alloc::string::String)>".toList
  | .celsius home => home ++ "::Celsius".toList
  | .opaqueToken home => home ++ "::Opaque".toList
  | .ages home => home ++ "::Ages".toList
  | .foreign fullName => fullName

def HostType.default : (t : HostType) → t.Carrier
  | .texts => []
  | .bytes => []
  | .numbered => none
  | .celsius _ => 0
  | .opaqueToken _ => ()
  | .ages _ => []
  | .foreign _ => ()

instance : HostTypes HostType := ⟨HostType.Carrier, HostType.fullName⟩

abbrev ScriptType := ValueType HostType
abbrev ScriptValue := Value HostType

def defaultContent : (t : ScriptType) → t.Carrier
  | .builtin t => t.default
  | .host t => t.default

def kind (t : ScriptType) (required : Bool) : Kind HostType :=
  if required then .required t else .withDefault t (defaultContent t)

/-- Hexadecimal digits, filled up with zeros to a width. -/
def hexadecimal (width n : Nat) : Text :=
  let digits := Nat.toDigits 16 n
  List.replicate (width - digits.length) '0' ++ digits

def decimal (n : Int) : Text := (toString n).toList

def writeHost : (t : HostType) → t.Carrier → Json
  | .texts, items => .array (items.map .text)
  | .bytes, items => .array (items.map fun b => .integer b.toNat)
  | .numbered, none => .null
  | .numbered, some (n, text) => .array [.integer n.val, .text text]
  | .celsius _, bits => .text (hexadecimal 16 bits.toNat)
  | .opaqueToken _, _ => .ofString "opaque"
  | .ages _, ages => .ofFields (ages.map fun (name, age) => (name, .integer age.val))
  | .foreign _, _ => .null

/-- A value written down. Wide integers and bits of floating-point numbers become text. -/
def write : (t : ScriptType) → t.Carrier → Json
  | .builtin .text, text => .text text
  | .builtin .bool, b => .bool b
  | .builtin .char, c => .text [c]
  | .builtin (.integer _), n => .text (decimal n.val)
  | .builtin .float32, bits => .text (hexadecimal 8 bits.toNat)
  | .builtin .float64, bits => .text (hexadecimal 16 bits.toNat)
  | .host t, content => writeHost t content

/-- The integers that an answer can hold. -/
def answerRange (n : Int) : Bool :=
  -(IntType.depth ⟨true, .bits64⟩ : Int) ≤ n && n ≤ IntType.height ⟨false, .bits64⟩

/-- A floating-point answer; what is not a finite number becomes null. -/
def floatAnswer (bits : Nat) : Json :=
  if binary64.isFinite bits then .float (UInt64.ofNat bits) else .null

/-- A value as an answer of its own type. -/
def answer : (t : ScriptType) → t.Carrier → Except Failure Json
  | .builtin (.integer _), n =>
    if answerRange n.val then .ok (.integer n.val) else .error ⟨"number out of range", []⟩
  | .builtin .float32, bits =>
    .ok (if binary32.isFinite bits.toNat then
      floatAnswer (binary32.convert binary64 bits.toNat) else .null)
  | .builtin .float64, bits => .ok (floatAnswer bits.toNat)
  | t, content => .ok (write t content)

/-- The short type name and the value written down. -/
def writeTyped (v : ScriptValue) : Json :=
  .array [.text v.type.name, write v.type v.content]

end Phrasebook.Script
