import SqlClient.Number.Binary64
import SqlClient.Number.Integer

/-!
# Decimal notation of doubles

Writing a double takes the decimal with the fewest digits among those that read back as the same
double, and of these the nearest; a tie goes away from zero.  The decimal is written out in full,
never with an exponent.

Reading accepts an optional sign and then digits with an optional point and exponent, or one of
the words `inf`, `infinity` and `nan` in any case, and gives the nearest double.
-/

namespace SqlClient

/-- The decimal number `digits * 10 ^ exponent`. -/
structure Decimal where
  /-- The digits as a whole number. -/
  digits : Nat
  /-- The power of ten of the last digit. -/
  exponent : Int
  deriving DecidableEq, Repr

namespace Decimal

/-- The decimal written out in full: zeros fill the places up to the point. -/
def positional (d : Decimal) : String :=
  let digits := (toString d.digits).toList
  match d.exponent with
  | .ofNat zeros => String.ofList (digits ++ List.replicate zeros '0')
  | .negSucc n =>
    let places := n + 1
    let padded := List.replicate (places + 1 - digits.length) '0' ++ digits
    let whole := padded.length - places
    String.ofList (padded.take whole ++ '.' :: padded.drop whole)

/-- The better of the two multiples of `10 ^ exponent` around a finite double, if one of them
reads back as that double: such a number lies within half a unit in the last place, and may lie
at that distance when the significand is even.  Below a power of two the unit is halved. -/
def onGrid? (d : Binary64) (exponent : Int) : Option Decimal :=
  let shrink := if d.fraction = 0 ∧ 1 < d.exponentField then 1 else 2
  let stretch := Nat.pow 2 d.scale * Nat.pow 10 (-exponent).toNat
  let unit := Nat.pow 2 1077 * Nat.pow 10 exponent.toNat
  let value := 4 * d.significand * stretch
  let lowest := (4 * d.significand - shrink) * stretch
  let highest := (4 * d.significand + 2) * stretch
  let slack := if d.significand % 2 = 0 then 0 else 1
  let below := value / unit
  let belowFits := decide (lowest + slack ≤ below * unit)
  let aboveFits := decide ((below + 1) * unit + slack ≤ highest)
  match belowFits, aboveFits with
  | true, true =>
    some ⟨if 2 * (value % unit) < unit then below else below + 1, exponent⟩
  | true, false => some ⟨below, exponent⟩
  | false, true => some ⟨below + 1, exponent⟩
  | false, false => none

/-- A power of ten above the magnitude of a finite double: the magnitude is below
`2 ^ (bits of the significand + scale - 1075)`, and three tenths is close to `log10 2`. -/
def topExponent (d : Binary64) : Int :=
  ((Nat.log2 d.significand + 1 + d.scale : Nat) - 1075 : Int) * 1233 / 4096 + 2

/-- The decimal with the fewest digits that reads back as a finite double.  Seventeen digits
always suffice. -/
def shortest (d : Binary64) : Decimal :=
  let top := topExponent d
  ((List.range 22).findSome? fun (n : Nat) => onGrid? d (top - n)).getD ⟨0, 0⟩

end Decimal

namespace Binary64

/-- Doubles without a fractional part keep `.0` below this bound. -/
def wholeBound : Nat := Nat.pow 10 16

/-- A double in decimal notation. -/
def text (d : Binary64) : String :=
  if d.isNaN then "NaN"
  else
    let magnitude :=
      if d.isFinite then
        match d.wholeMagnitude? with
        | some n => if n < wholeBound then toString n ++ ".0" else (Decimal.shortest d).positional
        | none => (Decimal.shortest d).positional
      else "inf"
    if d.isNegative then "-" ++ magnitude else magnitude

/-- The double nearest to `digits * 10 ^ exponent`.  From `10 ^ 309` on that is an infinity and
below `10 ^ -330` zero, so the powers computed stay small. -/
def ofDecimal (negative : Bool) (digits : Nat) (exponent : Int) : Binary64 :=
  let top := (Nat.toDigits 10 digits).length + exponent
  if digits = 0 ∨ top < -330 then ofMagnitude negative 0
  else if 310 ≤ top then infinity negative
  else nearest negative (digits * Nat.pow 10 exponent.toNat) (Nat.pow 10 (-exponent).toNat)

/-- The power of ten written after the digits: nothing, or `e` and an integer. -/
def exponent? : List Char → Option Int
  | [] => some 0
  | c :: rest => if c = 'e' ∨ c = 'E' then Number.integer? rest else none

/-- The double written by digits with an optional point and exponent. -/
def numeral? (negative : Bool) (cs : List Char) : Option Binary64 :=
  let whole := cs.takeWhile Char.isDigit
  let rest := cs.dropWhile Char.isDigit
  let places := match rest with
    | '.' :: after => after.takeWhile Char.isDigit
    | _ => []
  let rest := match rest with
    | '.' :: after => after.dropWhile Char.isDigit
    | _ => rest
  match Number.natural? (whole ++ places), exponent? rest with
  | some digits, some exponent => some (ofDecimal negative digits (exponent - places.length))
  | _, _ => none

/-- The double written without a sign: a numeral, an infinity or NaN. -/
def unsigned? (negative : Bool) (cs : List Char) : Option Binary64 :=
  let word := String.ofList (cs.map Char.toLower)
  if word = "inf" ∨ word = "infinity" then some (infinity negative)
  else if word = "nan" then some (nan negative)
  else numeral? negative cs

/-- The double that a text writes. -/
def read? : List Char → Option Binary64
  | '-' :: cs => unsigned? true cs
  | '+' :: cs => unsigned? false cs
  | cs => unsigned? false cs

end Binary64
end SqlClient
