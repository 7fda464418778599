import FacetedGraph.Binary64.Decimal
import FacetedGraph.Binary64.Scaled
import FacetedGraph.Json.Basic

/-!
# Numerals of JSON

A numeral without point and exponent is a whole number if it fits in 64 bits, except that `-0`
keeps its sign by being a binary64 number. Every other numeral is a binary64 number, and is refused
when it is too large for one: its leading digits, as many as fit in 64 bits, are scaled by a power
of ten.

## Main definitions

* `Json.takeFitting` — the leading digits that fit in 64 bits.
* `Json.readNumber` — the number at the start of a text, and the rest of it.
-/

namespace FacetedGraph.Json

/-! ## Parts -/

/-- The digits after a point, if there is one, and the rest. -/
def readFraction : List Char → Option (Option (List Char) × List Char)
  | '.' :: cs =>
    let (digits, rest) := Decimal.takeDigits cs
    if digits.isEmpty then none else some (some digits, rest)
  | cs => some (none, cs)

/-- The exponent of a numeral, if it has one, and the rest. -/
def readExponent : List Char → Option (Option Int × List Char)
  | c :: cs =>
    if c = 'e' ∨ c = 'E' then
      let (negative, rest) := Decimal.takeSign cs
      let (digits, rest) := Decimal.takeDigits rest
      (readNumeral digits).map fun n => (some (if negative then -(n : Int) else n), rest)
    else some (none, c :: cs)
  | [] => some (none, [])

/-- Reads digits after those that gave `acc` as long as the number fits in 64 bits; gives the
number and the digits that are left. -/
def takeFitting (acc : Nat) : List Char → Nat × List Char
  | [] => (acc, [])
  | c :: cs =>
    let next := 10 * acc + digitValue c
    if next ≤ maxIdentity then takeFitting next cs else (acc, c :: cs)

/-! ## Numbers -/

/-- The leaf for a whole number of at most 64 bits with a sign beside it. -/
def ofWhole (negative : Bool) (n : Nat) : Json :=
  if !negative then int n
  else if 0 < n && n ≤ 0x8000000000000000 then int (-n)
  else real (.signed true (.ofNat n))

/-- The leaf for a numeral of digits before the point, places after it and an exponent. Digits
before the point that are left out move the point. -/
def ofParts (negative : Bool) (whole places : List Char) (exponent : Int) : Option Json :=
  let (n, omitted) := takeFitting 0 whole
  let (n, ignored) := takeFitting n places
  let m := Magnitude.scaled n (omitted.length - (places.length - ignored.length) + exponent)
  if m.isInfinite then none else some (real (.signed negative m))

/-- Reads a number. Its first digit is zero only if no other digit stands before the point. -/
def readNumber (cs : List Char) : Option (Json × List Char) := do
  let (negative, cs) := match cs with
    | '-' :: rest => (true, rest)
    | rest => (false, rest)
  let (whole, cs) := Decimal.takeDigits cs
  if whole.isEmpty || (whole.head? == some '0' && whole.length != 1) then none
  let (fraction, cs) ← readFraction cs
  let (exponent, cs) ← readExponent cs
  if fraction.isNone && exponent.isNone && digitsValue 0 whole ≤ maxIdentity then
    some (ofWhole negative (digitsValue 0 whole), cs)
  else (ofParts negative whole (fraction.getD []) (exponent.getD 0)).map (·, cs)

end FacetedGraph.Json
