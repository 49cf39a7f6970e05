import Phrasebook.Number.Binary
import Phrasebook.Number.Integer

/-! Reading a floating-point number from text: digits with an optional point and exponent,
or a word for an infinity or a non-number. -/
namespace Phrasebook

inductive FloatError where
  | empty
  | invalid
  deriving DecidableEq, Repr

def FloatError.message : FloatError → String
  | .empty => "cannot parse float from empty string"
  | .invalid => "invalid float literal"

namespace Number

inductive Magnitude where
  | infinite
  | notANumber
  | decimal (digits : Nat) (exponent : Int)
  deriving DecidableEq, Repr

/-- The digits that a text starts with, and the rest. -/
def spanDigits (t : Text) : List Nat × Text :=
  ((t.takeWhile fun c => (digit? c).isSome).filterMap digit?,
    t.dropWhile fun c => (digit? c).isSome)

def ofDigits (digits : List Nat) : Nat := digits.foldl (fun n d => 10 * n + d) 0

/-- Nothing, or a letter `e` with an integer. -/
def exponent? : Text → Option Int
  | [] => some 0
  | c :: more =>
    let (negative, rest) :=
      match more with
      | '-' :: rest => (true, rest)
      | '+' :: rest => (false, rest)
      | rest => (false, rest)
    let (digits, after) := spanDigits rest
    if (c = 'e' ∨ c = 'E') ∧ digits ≠ [] ∧ after = [] then
      some (if negative then -(ofDigits digits : Int) else ofDigits digits)
    else none

/-- The digits after a point, if there is a point. -/
def fraction (t : Text) : List Nat × Text :=
  match t with
  | '.' :: more => spanDigits more
  | _ => ([], t)

def word? (t : Text) : Option Magnitude :=
  let lower := t.map Char.toLower
  if lower = "inf".toList ∨ lower = "infinity".toList then some .infinite
  else if lower = "nan".toList then some .notANumber
  else none

def magnitude? (t : Text) : Option Magnitude :=
  let (whole, afterWhole) := spanDigits t
  let (part, after) := fraction afterWhole
  if whole = [] ∧ part = [] then word? t
  else (exponent? after).map fun e => .decimal (ofDigits (whole ++ part)) (e - part.length)

def Magnitude.bits (f : BinaryFormat) : Magnitude → Nat
  | .infinite => f.infinity
  | .notANumber => f.notANumber
  | .decimal digits exponent => f.ofDecimal digits exponent

/-- The bits of the number that a text denotes. A sign may lead any of the forms. -/
def readFloat (f : BinaryFormat) : Text → Except FloatError Nat
  | [] => .error .empty
  | c :: more =>
    let (negative, rest) :=
      if c = '-' then (true, more) else if c = '+' then (false, more) else (false, c :: more)
    match magnitude? rest with
    | some m => .ok (f.withSign negative (m.bits f))
    | none => .error .invalid

end Number
end Phrasebook
