import Namebook.Text.Ascii
import Namebook.Text.Split

/-!
Charts of code points, as lines of rows between spaces. A row is written `first-last/step:values`
in hexadecimal digits with points between the values; what is not needed of it is left out.
-/

namespace Namebook.Text

/-- The code points `first, first + step, …, last`, and what stands beside them. -/
structure Chart.Row where
  first : Nat
  last : Nat
  step : Nat
  values : List Nat
  deriving DecidableEq, Repr

abbrev Chart := List Chart.Row

namespace Chart

def hex? : List Char → Option Nat
  | [] => none
  | cs => cs.foldlM (fun n c => (hexValue? c).map fun d => 16 * n + d) 0

def span? (cs : List Char) (step : Nat) (values : List Nat) : Option Row :=
  match cut? '-' cs with
  | some (first, last) => do return ⟨← hex? first, ← hex? last, step, values⟩
  | none => (hex? cs).map fun n => ⟨n, n, step, values⟩

def row? (cs : List Char) : Option Row := do
  let (key, values) ← match cut? ':' cs with
    | some (key, values) => do some (key, ← (pieces '.' values).mapM hex?)
    | none => some (cs, [])
  match cut? '/' key with
  | some (span, step) => do span? span (← hex? step) values
  | none => span? key 1 values

def ofLines (lines : List String) : Chart :=
  lines.flatMap fun line => (pieces ' ' line.toList).filterMap row?

def Row.covers (r : Row) (n : Nat) : Bool :=
  r.first ≤ n && n ≤ r.last && (n - r.first) % r.step == 0

def find? (chart : Chart) (n : Nat) : Option Row := List.find? (fun r => r.covers n) chart

def contains (chart : Chart) (n : Nat) : Bool := (chart.find? n).isSome

/-- The first value of a code point; one that is not in the chart, or has no value, has `absent`. -/
def value (chart : Chart) (n absent : Nat) : Nat :=
  ((chart.find? n).bind fun r => r.values.head?).getD absent

/-- The values of a code point, the first of which goes on through the row. -/
def images? (chart : Chart) (n : Nat) : Option (List Nat) :=
  (chart.find? n).map fun r =>
    match r.values with
    | [] => []
    | v :: vs => (v + (n - r.first)) :: vs

end Chart

end Namebook.Text
