/-!
Characters of ASCII: letters without regard to case, hexadecimal digits, and single characters that
have to come next.
-/

namespace Namebook.Text

def asciiUpper (cs : List Char) : List Char := cs.map Char.toUpper

def asciiLower (cs : List Char) : List Char := cs.map Char.toLower

/-- Letters of either case count as digits above nine. -/
def hexValue? (c : Char) : Option Nat :=
  let n := c.toNat
  if 48 ≤ n ∧ n ≤ 57 then some (n - 48)
  else if 65 ≤ n ∧ n ≤ 70 then some (n - 55)
  else if 97 ≤ n ∧ n ≤ 102 then some (n - 87)
  else none

def upperHexDigit (n : Nat) : Char := Char.ofNat (if n < 10 then n + 48 else n + 55)

def lowerHexDigit (n : Nat) : Char := Char.ofNat (if n < 10 then n + 48 else n + 87)

/-- What comes after a character that has to come first. -/
def after? (c : Char) : List Char → Option (List Char)
  | x :: cs => if x = c then some cs else none
  | [] => none

end Namebook.Text
