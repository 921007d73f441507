/-!
# Numerals

Digits are read as numbers, and a decimal number is compared with the range of
a binary64 float without rounding.
-/

namespace ChatBlocks.Text

def hexValue? (character : Char) : Option Nat :=
  let code := character.toNat
  if 48 ≤ code ∧ code ≤ 57 then some (code - 48)
  else if 97 ≤ code ∧ code ≤ 102 then some (code - 87)
  else if 65 ≤ code ∧ code ≤ 70 then some (code - 55)
  else none

def decimalValue (digits : List Char) : Nat :=
  digits.foldl (fun value digit => value * 10 + (digit.toNat - 48)) 0

def readDigits (input : List Char) : List Char × List Char :=
  (input.takeWhile Char.isDigit, input.dropWhile Char.isDigit)

/-- Whether `mantissa * 10 ^ exponent` rounds to a finite binary64 float: it
has to lie below the middle between the greatest float and the next power of
two. A magnitude far from that bound is decided by its number of digits. -/
def fitsFloat (mantissa : Nat) (exponent : Int) : Bool :=
  let bound := Nat.pow 2 1024 - Nat.pow 2 970
  if mantissa = 0 then true
  else
    let magnitude : Int := (Nat.repr mantissa).length + exponent
    if magnitude > 310 then false
    else if magnitude < 300 then true
    else if 0 ≤ exponent then mantissa * Nat.pow 10 exponent.toNat < bound
    else mantissa < bound * Nat.pow 10 (-exponent).toNat

end ChatBlocks.Text
