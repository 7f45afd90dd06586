import BindingStubs.Text.ClassTable

set_option autoImplicit false

/-! # Character classes -/

namespace BindingStubs.Text

/-- Halving search for the number of entries of `table` between `lo` and `hi` that are at most
`code`, counted from the start of the table. -/
def boundsUpTo (table : Array Nat) (code : Nat) : (fuel lo hi : Nat) → Nat
  | 0, lo, _ => lo
  | fuel + 1, lo, hi =>
    if lo < hi then
      let mid := (lo + hi) / 2
      if table.getD mid 0 ≤ code then boundsUpTo table code fuel (mid + 1) hi
      else boundsUpTo table code fuel lo mid
    else lo

/-- Membership in a table of boundaries: an odd number of them are passed. -/
def inTable (table : Array Nat) (code : Nat) : Bool :=
  boundsUpTo table code 32 0 table.size % 2 == 1

def isAsciiDigit (c : Char) : Bool := '0' ≤ c && c ≤ '9'

def isAsciiLower (c : Char) : Bool := 'a' ≤ c && c ≤ 'z'

def isAsciiUpper (c : Char) : Bool := 'A' ≤ c && c ≤ 'Z'

def isAsciiLetter (c : Char) : Bool := isAsciiLower c || isAsciiUpper c

/-- White space in the widest sense, the four ASCII separators 28 to 31 included. -/
def isBlank (c : Char) : Bool :=
  let n := c.toNat
  if n < 128 then n == 32 || (9 ≤ n && n ≤ 13) || (28 ≤ n && n ≤ 31)
  else n == 0x85 || n == 0xA0 || n == 0x1680 || (0x2000 ≤ n && n ≤ 0x200A) || n == 0x2028 ||
    n == 0x2029 || n == 0x202F || n == 0x205F || n == 0x3000

def isAlnum (c : Char) : Bool :=
  if c.toNat < 128 then isAsciiLetter c || isAsciiDigit c else inTable alnumBounds c.toNat

def isWord (c : Char) : Bool := isAlnum c || c == '_'

def isDecimal (c : Char) : Bool :=
  if c.toNat < 128 then isAsciiDigit c else inTable decimalBounds c.toNat

/-- The value of a decimal digit. The digits of a script follow one another from zero on. -/
def decimalValue? (c : Char) : Option Nat :=
  if isAsciiDigit c then some (c.toNat - 48)
  else if isDecimal c then
    let passed := boundsUpTo decimalBounds c.toNat 32 0 decimalBounds.size
    some ((c.toNat - decimalBounds.getD (passed - 1) 0) % 10)
  else none

def isDigit (c : Char) : Bool :=
  if c.toNat < 128 then isAsciiDigit c else inTable digitBounds c.toNat

def isNumeric (c : Char) : Bool :=
  if c.toNat < 128 then isAsciiDigit c else inTable numericBounds c.toNat

/-- The other form of a letter by the run that holds its code point. -/
def shiftByRun (code : Nat) : List (Nat × Nat × Nat × Int) → Nat
  | [] => code
  | (first, last, step, distance) :: rest =>
    if first ≤ code && code ≤ last && (code - first) % step == 0 then
      ((code : Int) + distance).toNat
    else shiftByRun code rest

def isUpper (c : Char) : Bool :=
  if c.toNat < 128 then isAsciiUpper c
  else inTable loneUpperBounds c.toNat || shiftByRun c.toNat (pairedRuns.map otherRun) != c.toNat

def isPrintable (c : Char) : Bool :=
  if c.toNat < 128 then 32 ≤ c.toNat && c.toNat < 127 else inTable printableBounds c.toNat

def isNameStart (c : Char) : Bool :=
  if c.toNat < 128 then isAsciiLetter c || c == '_' else inTable nameStartBounds c.toNat

def isNamePart (c : Char) : Bool :=
  if c.toNat < 128 then isAsciiLetter c || c == '_' || isAsciiDigit c
  else inTable namePartBounds c.toNat

def isLineEnd (c : Char) : Bool :=
  let n := c.toNat
  (10 ≤ n && n ≤ 13) || (28 ≤ n && n ≤ 30) || n == 0x85 || n == 0x2028 || n == 0x2029

def asciiLower (c : Char) : Char := if isAsciiUpper c then Char.ofNat (c.toNat + 32) else c

def asciiUpper (c : Char) : Char := if isAsciiLower c then Char.ofNat (c.toNat - 32) else c

def upperCodes (code : Nat) : List Nat :=
  if code < 128 then [if 97 ≤ code && code ≤ 122 then code - 32 else code]
  else match upperSequences.find? (fun entry => entry.1 == code) with
    | some (_, codes) => codes
    | none => [shiftByRun code upperRuns]

def upperChars (c : Char) : List Char := (upperCodes c.toNat).map Char.ofNat

def isName : List Char → Bool
  | [] => false
  | c :: rest => isNameStart c && rest.all isNamePart

/-! ## Comparing letters without their case

Two letters are the same up to case if their lower-case forms are, or if those share one upper-case
form. Code points are used, since a pattern may hold some that are no characters. -/

inductive Folding where
  | none
  | ascii
  | all
  deriving DecidableEq, Repr

def isUpperAsciiCode (code : Nat) : Bool := 65 ≤ code && code ≤ 90

def isLowerAsciiCode (code : Nat) : Bool := 97 ≤ code && code ≤ 122

namespace Folding

def lower (f : Folding) (code : Nat) : Nat :=
  if f == .none then code
  else if isUpperAsciiCode code then code + 32
  else if f == .all && 128 ≤ code then shiftByRun code lowerRuns
  else code

def twins (f : Folding) (code : Nat) : List Nat :=
  if f == .all then ((lowerTwins.find? fun group => group.contains code).getD []).erase code
  else []

def runSource? (code : Nat) : Nat × Nat × Nat × Int → Option Nat
  | (first, last, step, distance) =>
    let source := ((code : Int) - distance).toNat
    if first ≤ source && source ≤ last && (source - first) % step == 0 then some source
    else Option.none

def sources (f : Folding) (code : Nat) : List Nat :=
  (if f.lower code == code then [code] else []) ++
    (if f != .none && isLowerAsciiCode code then [code - 32] else []) ++
    (if f == .all then lowerRuns.filterMap (runSource? code) else [])

def same (f : Folding) (a b : Nat) : Bool :=
  if f == .none then a == b
  else
    let base := f.lower a
    let other := f.lower b
    other == base || (f.twins base).contains other

end Folding

end BindingStubs.Text
