/-! Binary floating point as bit patterns. A ratio is rounded to the nearest number of a
format, a tie to the even one, in exact arithmetic. -/
namespace Phrasebook

structure BinaryFormat where
  fractionBits : Nat
  exponentBits : Nat
  deriving DecidableEq, Repr

def binary32 : BinaryFormat := ⟨23, 8⟩
def binary64 : BinaryFormat := ⟨52, 11⟩

namespace BinaryFormat

/-- The smallest positive number of the format is two to this power. -/
def leastExponent (f : BinaryFormat) : Int :=
  2 - Nat.pow 2 (f.exponentBits - 1) - f.fractionBits

def infinity (f : BinaryFormat) : Nat := (Nat.pow 2 f.exponentBits - 1) * Nat.pow 2 f.fractionBits

def notANumber (f : BinaryFormat) : Nat := f.infinity + Nat.pow 2 (f.fractionBits - 1)

def signBit (f : BinaryFormat) : Nat := Nat.pow 2 (f.fractionBits + f.exponentBits)

/-- The nearest integer to a quotient, of two equally near ones the even one. -/
def roundDiv (num den : Nat) : Nat :=
  let q := num / den
  let r := num % den
  if 2 * r < den then q else if den < 2 * r then q + 1 else q + q % 2

/-- The greatest power of two that does not exceed a positive quotient. -/
def floorLog (num den : Nat) : Int :=
  let l := (num.log2 : Int) - den.log2
  let reached := if 0 ≤ l then den * Nat.pow 2 l.toNat ≤ num else den ≤ num * Nat.pow 2 (-l).toNat
  if reached then l else l - 1

/-- The bits of the number nearest to a quotient. The place value is a power of two chosen so
that all fraction bits are used, though never below the least. A count of places that
overflows the fraction carries into the exponent field by itself. -/
def ofRatio (f : BinaryFormat) (num den : Nat) : Nat :=
  if num = 0 then 0
  else
    let place := max f.leastExponent (floorLog num den - f.fractionBits)
    let count :=
      if 0 ≤ place then roundDiv num (den * Nat.pow 2 place.toNat)
      else roundDiv (num * Nat.pow 2 (-place).toNat) den
    min f.infinity ((place - f.leastExponent).toNat * Nat.pow 2 f.fractionBits + count)

/-- Decimal exponents beyond this many places give zero or infinity in every format here. -/
def decimalReach : Nat := 400

/-- The number nearest to `digits · 10 ^ exponent`. -/
def ofDecimal (f : BinaryFormat) (digits : Nat) (exponent : Int) : Nat :=
  let places := (Nat.toDigits 10 digits).length + exponent
  if digits = 0 ∨ places < -decimalReach then 0
  else if decimalReach < places then f.infinity
  else if 0 ≤ exponent then f.ofRatio (digits * Nat.pow 10 exponent.toNat) 1
  else f.ofRatio digits (Nat.pow 10 (-exponent).toNat)

def withSign (f : BinaryFormat) (negative : Bool) (bits : Nat) : Nat :=
  if negative then f.signBit + bits else bits

def ofInt (f : BinaryFormat) (n : Int) : Nat :=
  f.withSign (n < 0) (f.ofRatio n.natAbs 1)

/-- Neither infinite nor a non-number. -/
def isFinite (f : BinaryFormat) (bits : Nat) : Bool := bits % f.signBit < f.infinity

/-- The same finite number in another format, rounded if it has to be. -/
def convert (f g : BinaryFormat) (bits : Nat) : Nat :=
  let magnitude := bits % f.signBit
  let exponent := magnitude / Nat.pow 2 f.fractionBits
  let fraction := magnitude % Nat.pow 2 f.fractionBits
  let count := if exponent = 0 then fraction else Nat.pow 2 f.fractionBits + fraction
  let place := f.leastExponent + (exponent - 1 : Nat)
  g.withSign (f.signBit ≤ bits)
    (if 0 ≤ place then g.ofRatio (count * Nat.pow 2 place.toNat) 1
     else g.ofRatio count (Nat.pow 2 (-place).toNat))

end BinaryFormat
end Phrasebook
