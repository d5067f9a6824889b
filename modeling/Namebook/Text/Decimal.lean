/-!
Natural numbers as decimal text: written with the fewest digits, read with an optional plus sign
and any number of leading zeros.
-/

namespace Namebook.Text

def digits (n : Nat) : List Char := Nat.toDigits 10 n

def digitValue? (c : Char) : Option Nat :=
  if '0' ≤ c ∧ c ≤ '9' then some (c.toNat - '0'.toNat) else none

/-- The value of a run of digits that continues a number read so far. -/
def digitsFrom? (n : Nat) : List Char → Option Nat
  | [] => some n
  | c :: cs => (digitValue? c).bind fun d => digitsFrom? (10 * n + d) cs

/-- One digit at least, and nothing but digits. -/
def digitsValue? : List Char → Option Nat
  | [] => none
  | cs => digitsFrom? 0 cs

def dropPlus : List Char → List Char
  | '+' :: cs => cs
  | cs => cs

/-- Reads a number up to `limit`; a larger one is refused. -/
def natUpTo? (limit : Nat) (cs : List Char) : Option Nat :=
  (digitsValue? (dropPlus cs)).filter (· ≤ limit)

/-- The largest number of 64 bits. -/
def maxWord : Nat := UInt64.size - 1

def word? (s : String) : Option Nat := natUpTo? maxWord s.toList

end Namebook.Text
