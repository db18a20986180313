/-!
# Double-precision numbers

A double is its 64 bits: sign, eleven bits of exponent, fifty-two bits of fraction.  Everything
said about its value is said with natural numbers: the magnitude of a finite double is
`significand * 2 ^ scale` in units of `2 ^ -1075`, so no operation here rounds except
`Binary64.nearest`, which rounds an exact ratio once.
-/

namespace SqlClient

/-- A number in IEEE double precision, given by its bits. -/
structure Binary64 where
  /-- Sign, exponent and fraction, most significant first. -/
  bits : UInt64
  deriving DecidableEq, Repr

namespace Binary64

/-- The sign bit is set. -/
def isNegative (d : Binary64) : Bool := decide (Nat.pow 2 63 ≤ d.bits.toNat)

/-- The exponent field. -/
def exponentField (d : Binary64) : Nat := d.bits.toNat / Nat.pow 2 52 % 2048

/-- The fraction field. -/
def fraction (d : Binary64) : Nat := d.bits.toNat % Nat.pow 2 52

/-- Neither an infinity nor a NaN. -/
def isFinite (d : Binary64) : Bool := d.exponentField != 2047

/-- Not a number. -/
def isNaN (d : Binary64) : Bool := d.exponentField == 2047 && d.fraction != 0

/-- The fraction with the hidden bit of a normal number. -/
def significand (d : Binary64) : Nat :=
  if d.exponentField = 0 then d.fraction else Nat.pow 2 52 + d.fraction

/-- The magnitude of a finite double is `significand * 2 ^ scale` in units of `2 ^ -1075`. -/
def scale (d : Binary64) : Nat := max 1 d.exponentField

/-- The magnitude of a finite double without a fractional part. -/
def wholeMagnitude? (d : Binary64) : Option Nat :=
  let units := d.significand * Nat.pow 2 d.scale
  if d.isFinite && units % Nat.pow 2 1075 == 0 then some (units / Nat.pow 2 1075) else none

/-- The double with a sign and the other 63 bits as a number. -/
def ofMagnitude (negative : Bool) (magnitude : Nat) : Binary64 :=
  ⟨UInt64.ofNat (magnitude + if negative then Nat.pow 2 63 else 0)⟩

/-- An infinity. -/
def infinity (negative : Bool) : Binary64 := ofMagnitude negative (2047 * Nat.pow 2 52)

/-- The quiet NaN with an empty payload. -/
def nan (negative : Bool) : Binary64 := ofMagnitude negative (2047 * Nat.pow 2 52 + Nat.pow 2 51)

/-- The whole number nearest to `num / den`; a half goes to the even neighbour. -/
def roundHalfEven (num den : Nat) : Nat :=
  let low := num / den
  let rest := num % den
  if 2 * rest < den then low
  else if den < 2 * rest then low + 1
  else low + low % 2

/-- The double nearest to `num / den`; a half goes to the even neighbour, and what is too large
goes to infinity.  The scale is the one that leaves 53 bits of significand, or the smallest. -/
def nearest (negative : Bool) (num den : Nat) : Binary64 :=
  let units := num * Nat.pow 2 1075
  let scale := max 1 (Nat.log2 (units / den) - 52)
  let significand := roundHalfEven units (den * Nat.pow 2 scale)
  ofMagnitude negative (min ((scale - 1) * Nat.pow 2 52 + significand) (2047 * Nat.pow 2 52))

/-- The double nearest to an integer. -/
def ofInt (n : Int) : Binary64 := nearest (decide (n < 0)) n.natAbs 1

end Binary64
end SqlClient
