/-!
Text with control sequences of a terminal, and what is left of it where there is none: visible
characters and line breaks. A sequence ends only by its own rules, so an unfinished one takes the
text after it along.
-/

namespace Namebook.Text.Terminal

/-- What the characters before a place are about. -/
inductive State where
  /-- Plain text. -/
  | ground
  /-- An escape character came. -/
  | escape
  /-- It is followed by more than one character. -/
  | escapeMore
  /-- A sequence with parameters, up to its final letter. -/
  | csi
  /-- The parameters of a string for the device: none yet, some, or what comes after them. -/
  | dcsEntry
  | dcsParam
  | dcsMore
  /-- A string that the byte `0x9C` ends. -/
  | string
  /-- A string that the bell ends. -/
  | osc
  deriving DecidableEq, Repr

/-- White space among the control characters. -/
def isBreak (c : Char) : Bool := c = '\t' || c = '\n' || c = '\r' || c.toNat = 0x0C

/-- Visible in plain text. -/
def isVisible (c : Char) : Bool := 0x20 ≤ c.toNat && c.toNat != 0x7F

/-- Whether white space counts inside of what is read. -/
def State.obeysBreaks : State → Bool
  | ground => true
  | escape => true
  | escapeMore => true
  | csi => true
  | _ => false

/-- Whether the last byte of a character, or one before it, is `0x9C`. -/
def hasTerminator (n : Nat) : Bool :=
  0x80 ≤ n && (n % 0x40 == 0x1C || (0x800 ≤ n && n / 0x40 % 0x40 == 0x1C) ||
    (0x10000 ≤ n && n / 0x1000 % 0x40 == 0x1C))

/-- After an escape character. -/
def State.afterEscape (n : Nat) : State :=
  if n < 0x20 ∨ 0x7F ≤ n then escape
  else if n < 0x30 then escapeMore
  else if n = 0x5B then csi
  else if n = 0x5D then osc
  else if n = 0x50 then dcsEntry
  else if n = 0x58 ∨ n = 0x5E ∨ n = 0x5F then string
  else ground

/-- A state that is left for `last` at a letter or a sign of the upper columns. -/
def State.untilFinal (s : State) (first : Nat) (last : State) (n : Nat) : State :=
  if first ≤ n ∧ n ≤ 0x7E then last else s

def State.afterDcs (s : State) (n : Nat) : State :=
  if 0x20 ≤ n ∧ n < 0x30 then dcsMore
  else if 0x30 ≤ n ∧ n < 0x40 then
    if s = dcsMore ∨ (s = dcsParam ∧ 0x3C ≤ n) then string else dcsParam
  else s.untilFinal 0x40 string n

/-- The state after a character that is not shown. -/
def State.next (s : State) (c : Char) : State :=
  let n := c.toNat
  if n = 0x18 ∨ n = 0x1A then ground
  else if n = 0x1B then escape
  else match s with
    | ground => ground
    | escape => afterEscape n
    | escapeMore => s.untilFinal 0x30 ground n
    | csi => s.untilFinal 0x40 ground n
    | dcsEntry => s.afterDcs n
    | dcsParam => s.afterDcs n
    | dcsMore => s.afterDcs n
    | string => if hasTerminator n then ground else string
    | osc => if n = 7 then ground else osc

/-- Where text is `shown` it goes on to the next control character, even when white space made it
shown in the midst of a sequence; a character beyond ASCII makes that sequence forgotten. -/
def plainFrom (shown : Bool) (s : State) : List Char → List Char
  | [] => []
  | c :: cs =>
    let plain := shown || s = .ground
    if (plain && isVisible c) || ((plain || s.obeysBreaks) && isBreak c) then
      c :: plainFrom true (if c.toNat < 0x80 then s else .ground) cs
    else plainFrom false (s.next c) cs

/-- The text without control characters and sequences. -/
def plain (s : String) : String := String.ofList (plainFrom false .ground s.toList)

/-! Sequences that change how a text looks. -/

def escapeChar : Char := Char.ofNat 0x1B

def look (codes : List String) (text : String) : String :=
  let set := fun (code : String) => escapeChar.toString ++ "[" ++ code ++ "m"
  String.join (codes.map set) ++ text ++ set "0"

def bold (text : String) : String := look ["1"] text

def heading (text : String) : String := look ["1", "4"] text

end Namebook.Text.Terminal
