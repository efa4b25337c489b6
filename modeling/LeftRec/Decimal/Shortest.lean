/-!
# The shortest decimal of a floating-point number

Every finite number of 64 bits is read back from many decimals.  The one to write has the fewest
digits, and of those with as few the nearest.  All is computed with exact fractions: the numbers
that round to the given one form an interval, which has its ends in it when the significand is even.
On the grid of decimals with so many digits only the two neighbours of the number can be the nearest
ones inside the interval, so they are tried for one digit, two digits and so on.
-/

namespace LeftRec
namespace Decimal

/-! ## The interval of a number -/

/-- A positive number and its rounding interval, as numerators over one denominator. -/
structure Span where
  low : Nat
  mid : Nat
  high : Nat
  denominator : Nat
  /-- Whether the ends are in the interval. -/
  closed : Bool

namespace Span

/-- The span of `significand * 2 ^ exponent`.  The gap below a power of two may be half as wide. -/
def ofBinary (significand : Nat) (exponent : Int) (halfBelow : Bool) : Span :=
  let scale := Nat.pow 2 (exponent - 2).toNat
  { low := (4 * significand - if halfBelow then 1 else 2) * scale
    mid := 4 * significand * scale
    high := (4 * significand + 2) * scale
    denominator := Nat.pow 2 (2 - exponent).toNat
    closed := significand % 2 = 0 }

/-- Whether `n * 10 ^ e` is in the interval. -/
def contains (span : Span) (n : Nat) (e : Int) : Bool :=
  let value := n * Nat.pow 10 e.toNat * span.denominator
  let unit := Nat.pow 10 (-e).toNat
  if span.closed then span.low * unit ≤ value && value ≤ span.high * unit
  else span.low * unit < value && value < span.high * unit

/-- How many zeros follow the point of a number below one before its first other digit. -/
def leadingZeros (denominator : Nat) : Nat → Nat → Nat
  | 0, _ => 0
  | fuel + 1, numerator =>
      if denominator ≤ numerator * 10 then 0
      else leadingZeros denominator fuel (numerator * 10) + 1

/-- How many digits stand before the point, or less zero how many zeros after it. -/
def magnitude (span : Span) : Int :=
  if span.denominator ≤ span.mid then (Nat.toDigits 10 (span.mid / span.denominator)).length
  else -(leadingZeros span.denominator 400 span.mid : Int)

end Span

/-! ## The search for digits -/

/-- A decimal: an integer and the power of ten that it counts. -/
structure Digits where
  number : Nat
  exponent : Int

/-- The better of the two neighbours of a number on the grid of `10 ^ e`, if one of them is in its
interval.  In a tie the even one is better. -/
def neighbour? (span : Span) (e : Int) : Option Digits :=
  let unit := Nat.pow 10 (-e).toNat
  let step := Nat.pow 10 e.toNat * span.denominator
  let below := span.mid * unit / step
  let above := below + 1
  let toBelow := span.mid * unit - below * step
  let toAbove := above * step - span.mid * unit
  let belowFirst := toBelow < toAbove || (toBelow == toAbove && below % 2 == 0)
  let (first, second) := if belowFirst then (below, above) else (above, below)
  if span.contains first e then some ⟨first, e⟩
  else if span.contains second e then some ⟨second, e⟩
  else none

/-- The first grid with a hit, among those with more and more digits. -/
def search (span : Span) (magnitude : Int) : Nat → Nat → Digits
  | 0, _ => ⟨0, 0⟩
  | fuel + 1, count =>
      match neighbour? span (magnitude - count) with
      | some digits => digits
      | none => search span magnitude fuel (count + 1)

/-- Leave out zeros at the end. -/
def Digits.trim (d : Digits) : Nat → Digits
  | 0 => d
  | fuel + 1 =>
      if d.number % 10 = 0 && d.number ≠ 0 then trim ⟨d.number / 10, d.exponent + 1⟩ fuel else d

/-- The shortest decimal of the number of a span.  Seventeen digits are always enough. -/
def shortest (span : Span) : Digits :=
  (search span span.magnitude 18 1).trim 20

end Decimal
end LeftRec
