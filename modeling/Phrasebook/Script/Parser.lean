import Phrasebook.Convert.Registry
import Phrasebook.Script.HostType

/-! The parsers that scripts can register, one for each type that has one. -/
namespace Phrasebook.Script

def readWord32 (text : Text) : Except Failure (Bounded word32) :=
  (Number.readInteger word32 text).mapError fun e => ⟨e.message, []⟩

def hundredfold (raw : Text) : Except Failure (Bounded word32) :=
  if h : 100 * Text.byteSize raw ≤ word32.height then .ok (.ofNat _ h)
  else .error ⟨IntegerError.tooLarge.message, []⟩

def yesOrNo (raw : Text) : Except Failure Bool :=
  if raw = "yes".toList then .ok true
  else if raw = "no".toList then .ok false
  else .error ⟨s!"expected yes or no, got '{raw.string}'", []⟩

def firstChar : Text → Except Failure Char
  | c :: _ => .ok c
  | [] => .error ⟨"no character", []⟩

/-- Drops every degree sign at the start of a reversed text. -/
def dropDegrees : Text → Text
  | 'C' :: '°' :: more => dropDegrees more
  | text => text

def readCelsius (raw : Text) : Except Failure UInt64 :=
  let number := (dropDegrees (Text.trim raw).reverse).reverse
  match Number.readFloat binary64 number with
  | .ok bits => .ok (UInt64.ofNat bits)
  | .error e => .error ⟨e.message, []⟩

/-- A later entry takes the place of an earlier one of its name. -/
def putAge (name : Text) (age : Bounded word32) :
    List (Text × Bounded word32) → List (Text × Bounded word32)
  | [] => [(name, age)]
  | (other, old) :: more =>
    if name = other then (name, age) :: more else (other, old) :: putAge name age more

def readAges (ages : List (Text × Bounded word32)) :
    List Text → Except Failure (List (Text × Bounded word32))
  | [] => .ok ages
  | piece :: more =>
    if Text.trim piece = [] then readAges ages more
    else match Text.cutAt? '=' piece with
      | none => .error ⟨s!"expected name=age, got '{piece.string}'", []⟩
      | some (name, age) =>
        match readWord32 (Text.trim age) with
        | .error e => .error e
        | .ok n => readAges (putAge (Text.trim name) n ages) more

def noParser {α : Type} : Except Failure α := .error ⟨"no custom parser for this kind", []⟩

def parseHost : (t : HostType) → Text → Text → Except Failure t.Carrier
  | .texts, name, raw => .ok (name :: Text.pieces ',' raw)
  | .bytes, _, raw => .ok (raw.flatMap String.utf8EncodeChar)
  | .celsius _, _, raw => readCelsius raw
  | .opaqueToken _, _, _ => .ok ()
  | .ages _, _, raw => readAges [] (Text.pieces ';' raw)
  | .numbered, _, _ => noParser
  | .foreign _, _, _ => noParser

def parse : (t : ScriptType) → Text → Text → Except Failure t.Carrier
  | .builtin .text, name, raw => .ok (name ++ '=' :: raw)
  | .builtin .bool, _, raw => yesOrNo raw
  | .builtin .char, _, raw => firstChar raw
  | .builtin (.integer ⟨false, .bits32⟩), _, raw => hundredfold raw
  | .builtin (.integer _), _, _ => noParser
  | .builtin .float32, _, _ => noParser
  | .builtin .float64, _, _ => noParser
  | .host t, name, raw => parseHost t name raw

/-- A parser for a type, or one that always fails. -/
def parser (t : ScriptType) (fails? : Option Failure) : Parser HostType :=
  match fails? with
  | some failure => ⟨t, fun _ _ => .error failure⟩
  | none => ⟨t, parse t⟩

end Phrasebook.Script
