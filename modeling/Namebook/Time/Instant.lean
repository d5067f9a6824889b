import Namebook.Text.Ascii
import Namebook.Text.Decimal
import Namebook.Time.Calendar

/-!
Moments in universal time, to the nanosecond. A leap second is the second before it with a full
second of nanoseconds more, so it sorts between its neighbours.
-/

namespace Namebook.Time

/-- `seconds` since the start of 1970; `nanos` is below two seconds. -/
structure Instant where
  seconds : Int
  nanos : Nat
  deriving DecidableEq, Repr

namespace Instant

def epoch : Instant := ⟨0, 0⟩

def ofMillis (ms : Nat) : Instant := ⟨ms / 1000, ms % 1000 * 1000000⟩

/-- The order of time. -/
def before (a b : Instant) : Bool :=
  a.seconds < b.seconds || (a.seconds == b.seconds && a.nanos < b.nanos)

def latest (a b : Instant) : Instant := if a.before b then b else a

/-! Reading and writing by RFC 3339. -/

/-- A number of exactly `n` digits. -/
def fixedDigits? : Nat → Nat → List Char → Option (Nat × List Char)
  | 0, acc, cs => some (acc, cs)
  | n + 1, acc, c :: cs => (Text.digitValue? c).bind fun d => fixedDigits? n (10 * acc + d) cs
  | _ + 1, _, [] => none

def twoDigits? (cs : List Char) : Option (Nat × List Char) := fixedDigits? 2 0 cs

/-- Digits after the point count as nanoseconds, those beyond the ninth not at all. -/
def fraction? : List Char → Option (Nat × List Char)
  | '.' :: cs =>
    let ds := cs.takeWhile Char.isDigit
    if ds.isEmpty then none
    else
      let kept := ds.take 9
      (Text.digitsValue? kept).map fun n =>
        (n * Nat.pow 10 (9 - kept.length), cs.dropWhile Char.isDigit)
  | cs => some (0, cs)

/-- The offset from universal time in minutes. -/
def offset? : List Char → Option (Int × List Char)
  | 'Z' :: cs => some (0, cs)
  | 'z' :: cs => some (0, cs)
  | c :: cs =>
    if c = '+' ∨ c = '-' ∨ c = '−' then do
      let (hours, cs) ← twoDigits? cs
      let cs ← Text.after? ':' cs
      let (minutes, cs) ← twoDigits? cs
      if minutes < 60 ∧ hours < 24 then
        let size : Int := hours * 60 + minutes
        some (if c = '+' then size else -size, cs)
      else none
    else none
  | [] => none

def separator? : List Char → Option (List Char)
  | c :: cs => if c = 'T' ∨ c = 't' ∨ c = ' ' then some cs else none
  | [] => none

/-- The moment that a date and a time of day name; the sixtieth second is a leap second. -/
def ofParts? (date : Date) (hour minute second nanos : Nat) (offset : Int) : Option Instant :=
  if date.isValid ∧ hour < 24 ∧ minute < 60 ∧ second ≤ 60 then
    let leap := if second = 60 then 1 else 0
    some {
      seconds := date.toDays * 86400 + (hour * 3600 + minute * 60 + second - leap : Nat) -
        offset * 60
      nanos := nanos + leap * 1000000000 }
  else none

def parseChars? (cs : List Char) : Option Instant := do
  let (year, cs) ← fixedDigits? 4 0 cs
  let cs ← Text.after? '-' cs
  let (month, cs) ← twoDigits? cs
  let cs ← Text.after? '-' cs
  let (day, cs) ← twoDigits? cs
  let cs ← separator? cs
  let (hour, cs) ← twoDigits? cs
  let cs ← Text.after? ':' cs
  let (minute, cs) ← twoDigits? cs
  let cs ← Text.after? ':' cs
  let (second, cs) ← twoDigits? cs
  let (nanos, cs) ← fraction? cs
  let (offset, cs) ← offset? cs
  if cs.isEmpty then ofParts? ⟨year, month, day⟩ hour minute second nanos offset else none

def parse? (s : String) : Option Instant := parseChars? s.toList

def padded (width n : Nat) : List Char :=
  let ds := Text.digits n
  List.replicate (width - ds.length) '0' ++ ds

/-- Four digits; a year outside them carries its sign. -/
def yearText (year : Int) : List Char :=
  if 0 ≤ year ∧ year ≤ 9999 then padded 4 year.toNat
  else (if year < 0 then '-' else '+') :: padded 4 year.natAbs

/-- The fewest of 0, 3, 6 and 9 digits that are exact. -/
def fractionText (nanos : Nat) : List Char :=
  if nanos = 0 then []
  else if nanos % 1000000 = 0 then '.' :: padded 3 (nanos / 1000000)
  else if nanos % 1000 = 0 then '.' :: padded 6 (nanos / 1000)
  else '.' :: padded 9 nanos

def renderChars (t : Instant) : List Char :=
  let date := Date.ofDays (t.seconds / 86400)
  let ofDay := (t.seconds % 86400).toNat
  let leap := t.nanos / 1000000000
  yearText date.year ++ '-' :: padded 2 date.month ++ '-' :: padded 2 date.day ++
    'T' :: padded 2 (ofDay / 3600) ++ ':' :: padded 2 (ofDay / 60 % 60) ++
    ':' :: padded 2 (ofDay % 60 + leap) ++ fractionText (t.nanos % 1000000000) ++ ['Z']

def render (t : Instant) : String := String.ofList t.renderChars

end Instant

end Namebook.Time
