import Namebook.Dns.International
import Namebook.Text.Numeric

/-!
DNS names in text form: labels between dots, a backslash before a character that is meant as such,
or before the three octal digits of its code.
-/

namespace Namebook.Dns

/-- The labels, the one of the host first. -/
structure Name where
  labels : List (List Char)
  deriving DecidableEq, Repr

namespace Name

def root : Name := ⟨[]⟩

/-- Why a text is no name. -/
inductive Flaw where
  | emptyLabel
  | longLabel
  | longName
  | badCharacter (c : Char)
  | badEscape
  | notInternational
  deriving DecidableEq, Repr

def Flaw.message : Flaw → String
  | emptyLabel => "a label is empty"
  | longLabel => "a label has more than 63 characters"
  | longName => "the name has more than 255 bytes"
  | badCharacter c => "unrecognized character: " ++ c.toString
  | badEscape => "an escape is neither a character nor three octal digits"
  | notInternational => "a label does not fit into an international name"

def octal? (c : Char) : Option Nat :=
  if '0' ≤ c ∧ c ≤ '7' then some (c.toNat - 48) else none

def isOctal (c : Char) : Bool := (octal? c).isSome

/-- Neither a control character nor white space. -/
def isVisible (c : Char) : Bool :=
  let n := c.toNat
  0x20 < n && !(0x7F ≤ n && n ≤ 0xA0) && n != 0x1680 && !(0x2000 ≤ n && n ≤ 0x200A) &&
    n != 0x2028 && n != 0x2029 && n != 0x202F && n != 0x205F && n != 0x3000

/-- The character of three octal digits. -/
def octalChar? (a b c : Char) : Option Char := do
  return Char.ofNat ((← octal? a) * 64 + (← octal? b) * 8 + (← octal? c))

/-- The labels that end a text. -/
def lastLabels (label : List Char) : List (List Char) :=
  if label.isEmpty then [] else [label.reverse]

/-- Splits a text into labels. `label` holds the one that is being read, last character first. An
escape that the text breaks off does not count. -/
def labelsFrom (label : List Char) : List Char → Except Flaw (List (List Char))
  | [] => .ok (lastLabels label)
  | '.' :: cs =>
    if label.isEmpty then .error .emptyLabel
    else (labelsFrom [] cs).map (label.reverse :: ·)
  | '\\' :: a :: cs =>
    if Text.isNumeric a then
      match cs with
      | b :: c :: cs =>
        match octalChar? a b c with
        | some c => labelsFrom (c :: label) cs
        | none => .error .badEscape
      | cs => if (a :: cs).all isOctal then .ok (lastLabels label) else .error .badEscape
    else labelsFrom (a :: label) cs
  | ['\\'] => .ok (lastLabels label)
  | c :: cs => if isVisible c then labelsFrom (c :: label) cs else .error (.badCharacter c)

/-- A star only begins a label, a hyphen does not. -/
def labelCharOk (first : Bool) (c : Char) : Bool :=
  c.isAlphanum || c == '_' || c == '.' || (c == '-' && !first) || (c == '*' && first)

/-- The first character of a label that may not stand there. -/
def badCharacter? : List Char → Option Char
  | [] => none
  | c :: cs => if labelCharOk true c then cs.find? fun c => !labelCharOk false c else some c

def checkLabel (label : List Char) : Except Flaw Unit :=
  if label.isEmpty then .error .emptyLabel
  else match badCharacter? label with
    | some c => .error (.badCharacter c)
    | none => if 63 < label.length then .error .longLabel else .ok ()

def checkedLabel (label : List Char) : Except Flaw (List Char) := do
  checkLabel label
  return label

/-- The label that is sent for one of a name with characters beyond ASCII. A label that begins with
an underscore, or is a star, is no part of an international name. -/
def wideLabel (label : List Char) : Except Flaw (List Char) :=
  if label.head? = some '_' ∨ label = ['*'] then checkedLabel label
  else match International.encode? label with
    | some sent => checkedLabel sent
    | none => .error .notInternational

/-- The bytes that labels take on the wire, each with one for its length. -/
def wireSize (labels : List (List Char)) : Nat := labels.flatten.length + labels.length

def parse (s : String) : Except Flaw Name := do
  if s = "." then return root
  let labels ← labelsFrom [] s.toList
  let isPlain := labels.all fun label => label.all International.isAscii
  let labels ← labels.mapM (if isPlain then checkedLabel else wideLabel)
  if 255 < wireSize labels then .error .longName
  return ⟨labels⟩

/-- Every label ends in a dot. -/
def render (n : Name) : String :=
  if n.labels.isEmpty then "." else String.ofList (n.labels.flatMap fun label => label ++ ['.'])

end Name

end Namebook.Dns
