import Namebook.Text.Decimal

/-!
The shortest decimal that stands for a binary floating-point number. Around `m · 2 ^ q` lies the
interval of the reals that round to it. The coarsest grid of powers of ten with a point in the
interval gives the fewest digits; of two such points the nearer one is taken, and of two equally
near ones the larger.
-/

namespace Namebook.Decimal

/-- The number `m · 2 ^ q`. `isFloor` says that the next smaller float is only half as far away as
the next larger one. -/
structure Binary where
  m : Nat
  q : Int
  isFloor : Bool

/-- The number `n · 10 ^ e`. -/
structure Scaled where
  n : Nat
  e : Int
  deriving DecidableEq, Repr

namespace Binary

/-- The bit of `m` that 64 bits leave out. -/
def leadingBit : Nat := 1 <<< 52

/-- The size of the number that 64 bits stand for, if it is finite. -/
def ofBits? (bits : Nat) : Option Binary :=
  let exponent : Nat := bits / leadingBit % 2048
  let fraction : Nat := bits % leadingBit
  if exponent = 2047 then none
  else if exponent = 0 then some ⟨fraction, -1074, false⟩
  else some ⟨leadingBit + fraction, (exponent : Int) - 1075, fraction = 0 ∧ 1 < exponent⟩

/-- The number as a fraction, both parts times four. -/
def numerator (b : Binary) : Nat := (4 * b.m) <<< b.q.toNat

def denominator (b : Binary) : Nat := 4 <<< (-b.q).toNat

/-- The interval of the reals that round to the number, over the same denominator. -/
def low (b : Binary) : Nat := (4 * b.m - (if b.isFloor then 1 else 2)) <<< b.q.toNat

def high (b : Binary) : Nat := (4 * b.m + 2) <<< b.q.toNat

/-- Whether `n · 10 ^ e` lies in the interval, whose ends belong to it when `m` is even. -/
def holds (b : Binary) (x : Scaled) : Bool :=
  let point := x.n * Nat.pow 10 x.e.toNat * b.denominator
  let low := b.low * Nat.pow 10 (-x.e).toNat
  let high := b.high * Nat.pow 10 (-x.e).toNat
  if b.m % 2 = 0 then low ≤ point && point ≤ high else low < point && point < high

/-- The last point of the grid that is not above the number. -/
def below (b : Binary) (e : Int) : Scaled :=
  ⟨b.numerator * Nat.pow 10 (-e).toNat / (Nat.pow 10 e.toNat * b.denominator), e⟩

/-- Whether the number is as near to the point after `x` as to `x`, or nearer. -/
def nearerAbove (b : Binary) (x : Scaled) : Bool :=
  (2 * x.n + 1) * Nat.pow 10 x.e.toNat * b.denominator ≤ 2 * b.numerator * Nat.pow 10 (-x.e).toNat

/-- The point of a grid in the interval that is nearest to the number. -/
def onGrid? (b : Binary) (e : Int) : Option Scaled :=
  let x := b.below e
  let y : Scaled := ⟨x.n + 1, e⟩
  match b.holds x, b.holds y with
  | true, true => some (if b.nearerAbove x then y else x)
  | true, false => some x
  | false, true => some y
  | false, false => none

/-- Tries `fuel` grids, each ten times finer than the one before. -/
def search (b : Binary) : Nat → Int → Scaled
  | 0, e => b.below e
  | fuel + 1, e =>
    match b.onGrid? e with
    | some x => x
    | none => search b fuel (e - 1)

/-- No grid is coarser than the first power of ten above the number, and the grid of `10 ^ q` holds
the number itself. -/
def shortest (b : Binary) : Scaled :=
  if b.m = 0 then ⟨0, 0⟩
  else
    let places := (Text.digits (b.numerator / b.denominator)).length
    search b (places + (-b.q).toNat) places

end Binary

/-- Digits with a point among them, never an exponent. -/
def Scaled.render (x : Scaled) : List Char :=
  let ds := Text.digits x.n
  if 0 ≤ x.e then (if x.n = 0 then ds else ds ++ List.replicate x.e.toNat '0')
  else
    let places := (-x.e).toNat
    let ds := List.replicate (places + 1 - ds.length) '0' ++ ds
    ds.take (ds.length - places) ++ '.' :: ds.drop (ds.length - places)

/-- The shortest text that reads back as the number. -/
def ofFloat (x : Float) : String :=
  if x.isNaN then "NaN"
  else
    let bits := x.toBits.toNat
    let size := match Binary.ofBits? bits with
      | some b => b.shortest.render
      | none => "Inf".toList
    String.ofList ((if bits.testBit 63 then ['-'] else []) ++ size)

end Namebook.Decimal
