/-!
# Decimal numerals

Whole numbers written with the digits `0` to `9`.

## Main definitions

* `digitsValue` — the number that a run of digits stands for.
* `readNumeral` — a text that is one or more digits and nothing else.
* `readIdentity` — an optional plus sign and a numeral that fits in 64 bits.
* `numeral` — the digits of a number.
-/

namespace FacetedGraph

def isDigit (c : Char) : Bool := '0' ≤ c && c ≤ '9'

def digitValue (c : Char) : Nat := c.toNat - '0'.toNat

/-- The number that a run of digits stands for, read after the digits that gave `acc`. -/
def digitsValue (acc : Nat) : List Char → Nat
  | [] => acc
  | c :: cs => digitsValue (10 * acc + digitValue c) cs

/-- Reads a text that is one or more digits and nothing else. -/
def readNumeral (cs : List Char) : Option Nat :=
  if !cs.isEmpty && cs.all isDigit then some (digitsValue 0 cs) else none

/-- The largest number that 64 bits hold. -/
def maxIdentity : Nat := 0xffffffffffffffff

/-- A text without the plus sign that it may start with. -/
def dropPlus : List Char → List Char
  | '+' :: cs => cs
  | cs => cs

/-- Reads an optional plus sign and a numeral of at most `maxIdentity`. -/
def readIdentity (cs : List Char) : Option Nat :=
  (readNumeral (dropPlus cs)).filter (· ≤ maxIdentity)

/-- The digits of a number, without leading zeros. -/
def numeral (n : Nat) : List Char := Nat.toDigits 10 n

end FacetedGraph
