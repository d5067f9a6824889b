import Namebook.Text.Ascii
import Namebook.Text.Decimal

/-!
Internet addresses as text. Version 4 is four decimal numbers without leading zeros; version 6 is
read in every form, and written with its longest run of zero groups left out.
-/

namespace Namebook.Address

structure Ip4 where
  a : UInt8
  b : UInt8
  c : UInt8
  d : UInt8
  deriving DecidableEq, Repr

/-- Eight groups of sixteen bits. -/
structure Ip6 where
  groups : List UInt16
  length_groups : groups.length = 8
  deriving DecidableEq, Repr

inductive Ip where
  | v4 (ip : Ip4)
  | v6 (ip : Ip6)
  deriving DecidableEq, Repr

/-- Takes the digits that lead the text, and the value that they have in the base. -/
def takeNumber (base : Nat) (value? : Char → Option Nat) : Nat → List Char → Nat × List Char
  | acc, c :: cs =>
    match value? c with
    | some d => takeNumber base value? (base * acc + d) cs
    | none => (acc, c :: cs)
  | acc, [] => (acc, [])

/-- One digit at least and `most` at most, of a value below `bound`. -/
def number? (base : Nat) (value? : Char → Option Nat) (most : Option Nat) (bound : Nat)
    (cs : List Char) : Option (Nat × List Char) :=
  let (n, rest) := takeNumber base value? 0 cs
  let count := cs.length - rest.length
  if 0 < count ∧ n < bound ∧ most.all (count ≤ ·) then some (n, rest) else none

def decimal? (bound : Nat) (cs : List Char) : Option (Nat × List Char) :=
  number? 10 Text.digitValue? none bound cs

def octet? (cs : List Char) : Option (UInt8 × List Char) := do
  let (n, rest) ← number? 10 Text.digitValue? (some 3) 256 cs
  if cs.head? = some '0' ∧ cs.length - rest.length > 1 then none
  else some (UInt8.ofNat n, rest)

def ip4? (cs : List Char) : Option (Ip4 × List Char) := do
  let (a, cs) ← octet? cs
  let (b, cs) ← Text.after? '.' cs >>= octet?
  let (c, cs) ← Text.after? '.' cs >>= octet?
  let (d, cs) ← Text.after? '.' cs >>= octet?
  some (⟨a, b, c, d⟩, cs)

def group? (cs : List Char) : Option (UInt16 × List Char) :=
  (number? 16 Text.hexValue? (some 4) 65536 cs).map fun (n, rest) => (UInt16.ofNat n, rest)

def pair16 (high low : UInt8) : UInt16 := UInt16.ofNat (high.toNat * 256 + low.toNat)

def Ip4.groups (ip : Ip4) : List UInt16 := [pair16 ip.a ip.b, pair16 ip.c ip.d]

/-- Groups between colons, at most `room` of them; a version 4 address may stand for the last two.
The flag tells whether one did. `first` says that no colon comes before the next group. -/
def takeGroups (first : Bool) : Nat → List Char → List UInt16 × Bool × List Char
  | 0, cs => ([], false, cs)
  | room + 1, cs =>
    let after? := if first then some cs else Text.after? ':' cs
    match (if room = 0 then none else after? >>= ip4?) with
    | some (ip, rest) => (ip.groups, true, rest)
    | none =>
      match after? >>= group? with
      | some (g, rest) =>
        let (gs, dotted, rest) := takeGroups false room rest
        (g :: gs, dotted, rest)
      | none => ([], false, cs)

def Ip6.ofGroups? (groups : List UInt16) : Option Ip6 :=
  if h : groups.length = 8 then some ⟨groups, h⟩ else none

/-- A double colon stands for one zero group or more. -/
def ip6? (cs : List Char) : Option (Ip6 × List Char) := do
  let (head, dotted, rest) := takeGroups true 8 cs
  if head.length = 8 then (Ip6.ofGroups? head).map (·, rest)
  else if dotted then none
  else do
    let rest ← Text.after? ':' rest >>= Text.after? ':'
    let (tail, _, rest) := takeGroups true (7 - head.length) rest
    let zeros := List.replicate (8 - head.length - tail.length) 0
    (Ip6.ofGroups? (head ++ zeros ++ tail)).map (·, rest)

def ip? (cs : List Char) : Option (Ip × List Char) :=
  match ip4? cs with
  | some (ip, rest) => some (.v4 ip, rest)
  | none => (ip6? cs).map fun (ip, rest) => (.v6 ip, rest)

/-- What is read when nothing may follow. -/
def whole? {α : Type} : Option (α × List Char) → Option α
  | some (x, []) => some x
  | _ => none

def Ip.parseChars? (cs : List Char) : Option Ip := whole? (ip? cs)

def Ip.parse? (s : String) : Option Ip := Ip.parseChars? s.toList

def Ip.isV4 : Ip → Bool
  | .v4 _ => true
  | .v6 _ => false

def Ip4.render (ip : Ip4) : List Char :=
  Text.digits ip.a.toNat ++ '.' :: Text.digits ip.b.toNat ++ '.' :: Text.digits ip.c.toNat ++
    '.' :: Text.digits ip.d.toNat

def renderGroups : List UInt16 → List Char
  | [] => []
  | [g] => Nat.toDigits 16 g.toNat
  | g :: gs => Nat.toDigits 16 g.toNat ++ ':' :: renderGroups gs

/-- A run of groups: how many come before it and how many it has. -/
structure Run where
  start : Nat
  size : Nat

/-- Keeps the first of the longest runs of zeros. `current` is the run that ends at `i`. -/
def longestZeros (longest current : Run) : Nat → List UInt16 → Run
  | _, [] => longest
  | i, g :: gs =>
    if g = 0 then
      let current : Run := ⟨if current.size = 0 then i else current.start, current.size + 1⟩
      longestZeros (if longest.size < current.size then current else longest) current (i + 1) gs
    else longestZeros longest ⟨0, 0⟩ (i + 1) gs

/-- The version 4 address that the groups `0, 0, 0, 0, 0, ffff` announce. -/
def Ip6.mapped? (ip : Ip6) : Option Ip4 :=
  match ip.groups with
  | [0, 0, 0, 0, 0, 0xFFFF, x, y] =>
    some ⟨(x >>> 8).toUInt8, x.toUInt8, (y >>> 8).toUInt8, y.toUInt8⟩
  | _ => none

/-- Two zero groups at least are needed to leave any out. -/
def Ip6.render (ip : Ip6) : List Char :=
  match ip.mapped? with
  | some v4 => "::ffff:".toList ++ v4.render
  | none =>
    let zeros := longestZeros ⟨0, 0⟩ ⟨0, 0⟩ 0 ip.groups
    if zeros.size > 1 then
      renderGroups (ip.groups.take zeros.start) ++ ':' :: ':' ::
        renderGroups (ip.groups.drop (zeros.start + zeros.size))
    else renderGroups ip.groups

def Ip.renderChars : Ip → List Char
  | .v4 ip => ip.render
  | .v6 ip => ip.render

def Ip.render (ip : Ip) : String := String.ofList ip.renderChars

end Namebook.Address
