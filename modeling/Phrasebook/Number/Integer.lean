import Phrasebook.Text.Basic

/-! The fixed-width integer types and reading an integer from decimal text. Digits are taken
from the left: a digit that leaves the range ends the reading before a later character can
be found wrong. -/
namespace Phrasebook

inductive IntWidth where
  | bits8 | bits16 | bits32 | bits64 | bits128
  /-- As wide as a machine word, which has 64 bits, yet a type of its own. -/
  | word
  deriving DecidableEq, Repr

def IntWidth.bits : IntWidth → Nat
  | .bits8 => 8
  | .bits16 => 16
  | .bits32 => 32
  | .bits64 => 64
  | .bits128 => 128
  | .word => 64

structure IntType where
  signed : Bool
  width : IntWidth
  deriving DecidableEq, Repr

namespace IntType

/-- How far below zero the type reaches. -/
def depth (t : IntType) : Nat := if t.signed then Nat.pow 2 (t.width.bits - 1) else 0

def height (t : IntType) : Nat :=
  if t.signed then Nat.pow 2 (t.width.bits - 1) - 1 else Nat.pow 2 t.width.bits - 1

def name (t : IntType) : Text :=
  (if t.signed then 'i' else 'u') ::
    match t.width with
    | .bits8 => ['8']
    | .bits16 => ['1', '6']
    | .bits32 => ['3', '2']
    | .bits64 => ['6', '4']
    | .bits128 => ['1', '2', '8']
    | .word => ['s', 'i', 'z', 'e']

end IntType

/-- The integers of a type. -/
structure Bounded (t : IntType) where
  val : Int
  lower : -(t.depth : Int) ≤ val
  upper : val ≤ t.height
  deriving DecidableEq

namespace Bounded

def zero (t : IntType) : Bounded t := ⟨0, by omega, by omega⟩

def ofNat {t : IntType} (n : Nat) (h : n ≤ t.height) : Bounded t :=
  ⟨n, by omega, by omega⟩

def negative {t : IntType} (n : Nat) (h : n ≤ t.depth) : Bounded t :=
  ⟨-n, by omega, by omega⟩

end Bounded

inductive IntegerError where
  | empty
  | invalidDigit
  | tooLarge
  | tooSmall
  deriving DecidableEq, Repr

def IntegerError.message : IntegerError → String
  | .empty => "cannot parse integer from empty string"
  | .invalidDigit => "invalid digit found in string"
  | .tooLarge => "number too large to fit in target type"
  | .tooSmall => "number too small to fit in target type"

namespace Number

def digit? (c : Char) : Option Nat :=
  if '0' ≤ c ∧ c ≤ '9' then some (c.toNat - '0'.toNat) else none

/-- Digits after those that gave `n`, as long as the number stays within the limit. -/
def readDigits (limit : Nat) (excess : IntegerError) (n : Nat) :
    Text → (h : n ≤ limit) → Except IntegerError { n : Nat // n ≤ limit }
  | [], h => .ok ⟨n, h⟩
  | c :: more, _ =>
    match digit? c with
    | none => .error .invalidDigit
    | some d =>
      if h : 10 * n + d ≤ limit then readDigits limit excess (10 * n + d) more h
      else .error excess

def readUpward (t : IntType) (digits : Text) : Except IntegerError (Bounded t) :=
  (readDigits t.height .tooLarge 0 digits (Nat.zero_le _)).map fun n => .ofNat n.1 n.2

def readDownward (t : IntType) (digits : Text) : Except IntegerError (Bounded t) :=
  (readDigits t.depth .tooSmall 0 digits (Nat.zero_le _)).map fun n => .negative n.1 n.2

/-- A sign may lead, a minus for signed types only. It needs a digit after it. -/
def readInteger (t : IntType) : Text → Except IntegerError (Bounded t)
  | [] => .error .empty
  | ['+'] => .error .invalidDigit
  | ['-'] => .error .invalidDigit
  | '+' :: digits => readUpward t digits
  | '-' :: digits => if t.signed then readDownward t digits else .error .invalidDigit
  | digits => readUpward t digits

end Number
end Phrasebook
