import FacetedGraph.Binary64.Basic
import FacetedGraph.Text.Numeral

/-!
# Decimal texts of binary64 numbers

Reading takes an optional sign and then either digits with an optional point and an optional
exponent, or one of the words `inf`, `infinity` and `nan` in any case. The number is the nearest
one to the decimal, of two equally near ones the one with the even place.

Writing uses as few digits as read back to the same number, and always the positional form,
without an exponent.

## Main definitions

* `Binary64.read` — the number that a text stands for.
* `Magnitude.shortest` — the decimal with the fewest digits that reads back.
* `Binary64.text` — the positional text of a number.
-/

namespace FacetedGraph

namespace Magnitude

/-- The magnitude nearest to `digits · 10 ^ exponent`. Exponents far outside the range of the
format are settled by their size alone. -/
def ofDecimal (digits : Nat) (exponent : Int) : Magnitude :=
  if digits = 0 then zero
  else if exponent > 400 then infinity
  else if exponent < -(digits.log2 + 400 : Int) then zero
  else if 0 ≤ exponent then ofFraction (digits * Nat.pow 10 exponent.toNat) 1
  else ofFraction digits (Nat.pow 10 (-exponent).toNat)

end Magnitude

/-! ## Reading -/

namespace Decimal

/-- The sign at the start of a text, and the rest of it. -/
def takeSign : List Char → Bool × List Char
  | '-' :: cs => (true, cs)
  | '+' :: cs => (false, cs)
  | cs => (false, cs)

/-- A text after the exponent mark: a sign and digits. -/
def readExponent (cs : List Char) : Option Int :=
  let (negative, rest) := takeSign cs
  (readNumeral rest).map fun n => if negative then -(n : Int) else n

/-- Reads what follows the digits and the point: nothing, or an exponent. -/
def readScale : List Char → Option Int
  | [] => some 0
  | c :: cs => if c = 'e' ∨ c = 'E' then readExponent cs else none

/-- Splits a text after its leading digits. -/
def takeDigits (cs : List Char) : List Char × List Char :=
  (cs.takeWhile isDigit, cs.dropWhile isDigit)

/-- The digits after a point, and the rest; without a point there are none. -/
def takeFraction : List Char → List Char × List Char
  | '.' :: cs => takeDigits cs
  | cs => ([], cs)

/-- Reads an unsigned decimal. A point needs a digit on one of its sides. -/
def readMagnitude (cs : List Char) : Option Magnitude :=
  let (whole, rest) := takeDigits cs
  let (fraction, rest) := takeFraction rest
  if whole.isEmpty && fraction.isEmpty then none
  else
    (readScale rest).map fun scale =>
      .ofDecimal (digitsValue 0 (whole ++ fraction)) (scale - fraction.length)

/-- The lower-case form of an ASCII letter. -/
def lowerCase (c : Char) : Char :=
  if 'A' ≤ c ∧ c ≤ 'Z' then Char.ofNat (c.toNat + 32) else c

end Decimal

/-- The number that a text stands for. -/
def Binary64.read (cs : List Char) : Option Binary64 :=
  let (negative, rest) := Decimal.takeSign cs
  let word := rest.map Decimal.lowerCase
  if word = "nan".toList then some .nan
  else if word = "inf".toList ∨ word = "infinity".toList then some (.signed negative .infinity)
  else (Decimal.readMagnitude rest).map (.signed negative)

/-! ## Writing -/

/-- A decimal: a whole number of steps of a power of ten. -/
structure Decimal where
  digits : Nat
  exponent : Int
  deriving DecidableEq

namespace Magnitude

/-- The exponents of the powers of ten between the largest number and the smallest, descending. -/
def decimalExponents : List Int := (List.range 634).map fun (i : Nat) => (309 : Int) - i

/-- The point of the grid of multiples of `10 ^ exponent` that reads back to `m` and is nearest to
it, if the grid has one. A tie goes to the upper point.

Everything is measured in halves of a unit and, for negative exponents, multiplied by the power of
ten. The numbers that round to `m` lie between the midpoints to its neighbours, which belong to
`m` when its place is even. -/
def decimalOn (m : Magnitude) (exponent : Int) : Option Decimal :=
  let step := 2 * unitsPerOne * Nat.pow 10 exponent.toNat
  let scale := Nat.pow 10 (-exponent).toNat
  let value := 2 * m.units * scale
  let low := (unitsAt (m.rank - 1) + m.units) * scale
  let high := (m.units + unitsAt (m.rank + 1)) * scale
  let inside (k : Nat) : Bool :=
    if m.rank % 2 = 0 then low ≤ k * step && k * step ≤ high
    else low < k * step && k * step < high
  let below := value / step
  let above := below + 1
  match inside below, inside above with
  | true, true =>
    some ⟨if value - below * step < above * step - value then below else above, exponent⟩
  | true, false => some ⟨below, exponent⟩
  | false, true => some ⟨above, exponent⟩
  | false, false => none

/-- The decimal with the fewest digits that reads back to a finite magnitude: it stands on the
coarsest grid that has one. -/
def shortest (m : Magnitude) : Decimal :=
  if m.rank = 0 then ⟨0, 0⟩
  else (decimalExponents.findSome? m.decimalOn).getD ⟨0, 0⟩

end Magnitude

/-- The positional text of a decimal, without superfluous zeros. -/
def Decimal.positional (d : Decimal) : List Char :=
  let digits := numeral d.digits
  if 0 ≤ d.exponent then digits ++ List.replicate d.exponent.toNat '0'
  else
    let places := (-d.exponent).toNat
    let padded := List.replicate (places + 1 - digits.length) '0' ++ digits
    let split := padded.length - places
    padded.take split ++ '.' :: padded.drop split

def Binary64.sign (negative : Bool) : List Char := if negative then ['-'] else []

/-- The text of a number: the fewest digits that read back, in positional form. -/
def Binary64.text : Binary64 → List Char
  | .nan => "NaN".toList
  | .signed negative m =>
    sign negative ++ if m.isInfinite then "inf".toList else m.shortest.positional

/-- The text of a whole number with one place after the point, every digit exact. -/
def Binary64.wholeText : Binary64 → List Char
  | .nan => "NaN".toList
  | .signed negative m => sign negative ++ numeral m.floor ++ ".0".toList

end FacetedGraph
