import MiniLisp.Number.Shortest

/-!
# Written numbers

A number is written with the digits of its shortest decimal.  Zeros fill the
places between those digits and the point, or an exponent says where the point
would be.  Which numbers get an exponent, and whether a number without a
fraction still shows a point, is a matter of layout.
-/

namespace MiniLisp

namespace Decimal

def positional (decimal : Decimal) : List Char :=
  let digits := Nat.toDigits 10 decimal.coefficient
  let padded :=
    List.replicate ((-decimal.place).toNat + 1 - digits.length) '0' ++
      digits ++ List.replicate decimal.place.toNat '0'
  let whole := padded.length - (-decimal.place).toNat
  if decimal.place < 0 then padded.take whole ++ '.' :: padded.drop whole else padded

/-- The digits of a decimal with the point after the first one, and the exponent
of ten that makes up for it. -/
def scientific (decimal : Decimal) : List Char :=
  let digits := Nat.toDigits 10 decimal.coefficient
  let exponent := decimal.place + digits.length - 1
  let fraction := if digits.length ≤ 1 then [] else '.' :: digits.drop 1
  digits.take 1 ++ fraction ++ 'e' :: (toString exponent).toList

end Decimal

structure NumberLayout where
  hasExponent : Nat → Bool
  /-- What follows a number that has neither a fraction nor an exponent. -/
  wholeEnding : List Char

namespace NumberLayout

/-- The plain layout has no exponents, and whole numbers have no point. -/
def plain : NumberLayout where
  hasExponent := fun _ => false
  wholeEnding := []

/-- The detailed layout gives an exponent to positive magnitudes below `1e-4`
and from `1e16` on, and writes whole numbers with one decimal. -/
def detailed : NumberLayout where
  hasExponent := fun bits =>
    bits ≠ 0 &&
      (bits < Decimal.bits { coefficient := 1, place := -4 } ||
        Decimal.bits { coefficient := 1, place := 16 } ≤ bits)
  wholeEnding := ['.', '0']

def writeFinite (layout : NumberLayout) (bits : Nat) : List Char :=
  let decimal := Decimal.shortest bits
  if layout.hasExponent bits then decimal.scientific
  else if decimal.place < 0 then decimal.positional
  else decimal.positional ++ layout.wholeEnding

/-- A double as a layout writes it.  The sign of zero is shown, that of what is no
number is not. -/
def write (layout : NumberLayout) (double : Float) : List Char :=
  if Double.isNaN double then "NaN".toList
  else
    let magnitude :=
      if Double.isFinite double then layout.writeFinite (Double.magnitudeBits double)
      else "inf".toList
    if Double.isNegative double then '-' :: magnitude else magnitude

end NumberLayout

end MiniLisp
