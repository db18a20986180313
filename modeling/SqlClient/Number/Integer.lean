/-!
# Integers in decimal notation

An integer is written as an optional sign and one or more ASCII digits.  Leading zeros are
allowed, and so is a sign in front of zero.
-/

namespace SqlClient.Number

/-- The number that `digits` continue, after digits with the value `value`. -/
def digitsFrom (value : Nat) : List Char → Option Nat
  | [] => some value
  | c :: rest => if c.isDigit then digitsFrom (value * 10 + (c.toNat - '0'.toNat)) rest else none

/-- The number written by one or more ASCII digits. -/
def natural? : List Char → Option Nat
  | [] => none
  | digits => digitsFrom 0 digits

/-- The integer written by an optional sign and one or more ASCII digits. -/
def integer? : List Char → Option Int
  | '+' :: digits => (natural? digits).map Int.ofNat
  | '-' :: digits => (natural? digits).map fun n => -(n : Int)
  | digits => (natural? digits).map Int.ofNat

end SqlClient.Number
