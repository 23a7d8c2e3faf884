import MiniLisp.Number.Decimal

/-!
# The shortest decimal of a double

Among the decimals whose nearest double is a given one, the shortest has its
last digit at the highest place.  It is found by going down the places from just
above the first digit: at each place only the two neighbours of the double's own
value can read back as the double, and the first place where one of them does is
the answer.  If both do, the nearer one is taken, and the larger of two that are
equally near.

Seventeen digits are enough for any double, so the search finds one.  Should it
not, the double's exact decimal would do, and so what is found reads back as the
double in any case.
-/

namespace MiniLisp

namespace Decimal

/-- The decimal at a place that reads back as a double and is nearest to it. -/
def atPlace? (bits : Nat) (place : Int) : Option Decimal :=
  let numerator := Double.quanta bits * Nat.pow 10 (-place).toNat
  let denominator := Double.quantaInOne * Nat.pow 10 place.toNat
  let below : Decimal := { coefficient := numerator / denominator, place }
  let above : Decimal := { coefficient := numerator / denominator + 1, place }
  let nearerAbove : Bool := denominator ≤ 2 * (numerator % denominator)
  if below.bits = bits then
    if above.bits = bits && nearerAbove then some above else some below
  else if above.bits = bits then some above
  else none

/-- A place above the first digit of a positive double, by one or two.  It comes
from the power of two above the double, since `30103 / 100000` is the decimal
logarithm of two with its last digit rounded up. -/
def topPlace (bits : Nat) : Int :=
  ((Double.quanta bits).log2 + 1 - Double.halvings : Int) * 30103 / 100000 + 1

/-- The places to search, from the top down.  Seventeen digits always suffice to
tell a double from its neighbours, and up to two places above them have none. -/
def searchPlaces (bits : Nat) : List Int :=
  let top := topPlace bits
  (List.range 19).map fun below : Nat => top - below

/-- The shortest decimal that reads back as a finite double, and nearest to it
among the shortest. -/
def shortest (bits : Nat) : Decimal :=
  if bits = 0 then { coefficient := 0, place := 0 }
  else ((searchPlaces bits).findSome? (atPlace? bits)).getD (exactly bits)

theorem bits_of_atPlace? {bits : Nat} {place : Int} {decimal : Decimal}
    (found : atPlace? bits place = some decimal) : decimal.bits = bits := by
  simp only [atPlace?] at found
  split at found
  · next readsBelow =>
    split at found
    · next readsAbove =>
      cases found
      simp_all
    · cases found
      exact readsBelow
  · split at found
    · next readsAbove =>
      cases found
      exact readsAbove
    · cases found

theorem bits_shortest {bits : Nat} (isFinite : bits < Double.infinityBits) :
    (shortest bits).bits = bits := by
  unfold shortest
  split
  · next isZero =>
    subst isZero
    decide +kernel
  · cases found : (searchPlaces bits).findSome? (atPlace? bits) with
    | none => exact bits_exactly isFinite
    | some decimal =>
      obtain ⟨place, _, atPlace⟩ := List.exists_of_findSome?_eq_some found
      exact bits_of_atPlace? atPlace

end Decimal

end MiniLisp
