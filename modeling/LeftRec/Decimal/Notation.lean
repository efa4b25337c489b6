import LeftRec.Decimal.Shortest

/-!
# How floating-point numbers are written and read
-/

namespace LeftRec
namespace Decimal

/-! ## Layout -/

/-- Where a number is written with its point in place, by the power of ten of its first digit, and
with a power of ten otherwise. -/
structure Layout where
  least : Int
  most : Int

/-- The digits of a decimal in a layout. -/
def Digits.layOut (layout : Layout) (d : Digits) : String :=
  let digits := Nat.toDigits 10 d.number
  let point : Int := digits.length + d.exponent
  let power := point - 1
  if power < layout.least || layout.most < power then
    let fraction := digits.drop 1
    String.ofList (digits.take 1) ++ (if fraction.isEmpty then "" else ".") ++
      String.ofList fraction ++ "e" ++ toString power
  else if 0 < point then
    let padded := digits ++ List.replicate d.exponent.toNat '0'
    let fraction := padded.drop point.toNat
    String.ofList (padded.take point.toNat) ++ "." ++
      (if fraction.isEmpty then "0" else String.ofList fraction)
  else "0." ++ String.ofList (List.replicate (-point).toNat '0' ++ digits)

/-! ## Writing -/

/-- A floating-point number by its bits. -/
inductive Binary
  | nan
  | infinite
  | finite (significand : Nat) (exponent : Int) (halfBelow : Bool)

/-- The value of the bits of a number, its sign aside. -/
def Binary.ofBits (bits : Nat) : Binary :=
  let fraction : Nat := bits % 0x10000000000000
  let biased : Nat := bits / 0x10000000000000 % 0x800
  if biased = 2047 then if fraction = 0 then .infinite else .nan
  else if biased = 0 then .finite fraction (-1074) false
  else .finite (0x10000000000000 + fraction) ((biased : Int) - 1075) (fraction = 0 && biased ≠ 1)

/-- Write a number with the fewest digits that read back. -/
def write (layout : Layout) (x : Float) : String :=
  let bits := x.toBits.toNat
  let sign := if 0x8000000000000000 ≤ bits then "-" else ""
  match Binary.ofBits bits with
  | .nan => "NaN"
  | .infinite => sign ++ "inf"
  | .finite significand exponent halfBelow =>
      if significand = 0 then sign ++ "0.0"
      else sign ++ (shortest (.ofBinary significand exponent halfBelow)).layOut layout

/-! ## Reading -/

/-- The number that ASCII digits stand for. -/
def natOf (digits : List Char) : Nat :=
  digits.foldl (fun n c => 10 * n + (c.toNat - '0'.toNat)) 0

/-- A sign, if there is one, and the rest. -/
def readSign : List Char → Bool × List Char
  | '-' :: rest => (true, rest)
  | '+' :: rest => (false, rest)
  | rest => (false, rest)

/-- The power of ten after the letter for it, zero if there is none. -/
def readPower : List Char → Option Int
  | [] => some 0
  | c :: rest =>
      if c = 'e' || c = 'E' then
        let (negative, digits) := readSign rest
        if digits.isEmpty || !digits.all Char.isDigit then none
        else some (if negative then -(natOf digits : Int) else natOf digits)
      else none

/-- The nearest floating-point number to `n * 10 ^ e`.  Powers that leave the range at once are not
computed. -/
def round (n : Nat) (e : Int) : Float :=
  let power := (Nat.toDigits 10 n).length + e
  if n = 0 || power < -400 then 0.0
  else if 400 < power then 1.0 / 0.0
  else Float.ofScientific n (e < 0) e.natAbs

/-- Read a decimal with an optional sign, fraction and power of ten. -/
def read? (text : List Char) : Option Float := do
  let (negative, rest) := readSign text
  let (whole, rest) := rest.span Char.isDigit
  let (fraction, rest) := match rest with
    | '.' :: rest => rest.span Char.isDigit
    | rest => ([], rest)
  if whole.isEmpty && fraction.isEmpty then none
  let power ← readPower rest
  let x := round (natOf (whole ++ fraction)) (power - fraction.length)
  return if negative then -x else x

end Decimal
end LeftRec
