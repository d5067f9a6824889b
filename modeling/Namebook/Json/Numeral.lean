import Namebook.Json

/-!
The numbers that JSON text writes. A number that is no integer of 64 bits becomes a float: its
first digits, as many as 64 bits hold, times or over one power of ten.
-/

namespace Namebook.Json

/-- A number as it is written. -/
structure Numeral where
  negative : Bool
  /-- The digits before the point. -/
  whole : List Char
  /-- The digits after the point; without a point there are none. -/
  fraction : List Char
  exponent : Option Int

namespace Numeral

def digit (c : Char) : Nat := c.toNat - '0'.toNat

def natOf (ds : List Char) : Nat := ds.foldl (fun n d => 10 * n + digit d) 0

/-- Continues a number by digits as long as 64 bits hold it, and gives the digits that are left. -/
def gather (n : Nat) : List Char → Nat × List Char
  | [] => (n, [])
  | d :: ds => if 10 * n + digit d < UInt64.size then gather (10 * n + digit d) ds else (n, d :: ds)

/-- The digits that count and the power of ten that goes with them. -/
def parts (x : Numeral) : Nat × Int :=
  let (significand, left) := gather 0 x.whole
  let (significand, unread) := gather significand x.fraction
  (significand, (left.length : Int) - (x.fraction.length - unread.length : Nat) + x.exponent.getD 0)

/-- The largest exponent of a power of ten among the floats. -/
def maxPower : Nat := 308

def power (n : Nat) : Float := Float.ofScientific 1 false n

/-- `x / 10 ^ n`, in as few divisions as there can be. -/
def divided (x : Float) (n : Nat) : Float :=
  if n ≤ maxPower then x / power n
  else if x == 0 then x
  else divided (x / power maxPower) (n - maxPower)
  termination_by n
  decreasing_by simp only [maxPower] at *; omega

/-- `x · 10 ^ n`, unless that is beyond all floats. -/
def times? (x : Float) (n : Nat) : Option Float :=
  if n ≤ maxPower then
    let y := x * power n
    if y.isInf then none else some y
  else if x == 0 then some x
  else none

/-- The size of the number as a float. -/
def size? (x : Numeral) : Option Float :=
  let (significand, exponent) := x.parts
  let n := significand.toUInt64.toFloat
  if exponent < 0 then some (divided n exponent.natAbs) else times? n exponent.natAbs

def isInteger (x : Numeral) : Bool := x.fraction.isEmpty && x.exponent.isNone

/-- The integer of 64 bits, with or without a sign, that is written; minus zero is none. -/
def int? (x : Numeral) : Option Int :=
  let n := natOf x.whole
  if !x.isInteger then none
  else if x.negative then (if 0 < n ∧ n ≤ UInt64.size / 2 then some (-n) else none)
  else if n < UInt64.size then some n
  else none

def value (x : Numeral) : Json :=
  match x.int?, x.size? with
  | some n, _ => .int n
  | none, some size => .real (if x.negative then -size else size)
  | none, none => .void

end Numeral

end Namebook.Json
