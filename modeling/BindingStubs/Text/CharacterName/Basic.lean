import BindingStubs.Text.CharacterName.Packing
import BindingStubs.Text.CharacterName.Table
import BindingStubs.Text.Chars

set_option autoImplicit false

/-!
# Names of characters

The character that a name of Unicode 14.0 stands for. Names are listed in lines for successive
characters: the code point of the first one, a blank, and their names. A comma ends a name and a full
stop passes over a code point without one. Names that begin alike share their beginning, so
`DIGIT (ZERO,ONE,)` lists `DIGIT ZERO` and `DIGIT ONE`. Ideographs are named by their code points
and Hangul syllables by their letters.

Letters of either case are the same in a name, except for unified ideographs and Hangul syllables,
which are spelled in capitals.
-/

namespace BindingStubs.Text.CharacterName

/-- The code point that a text gives to a name. `left` is what is left of the name after the part of
a listed name that is read, if the two agree so far, and `stems` has the same for the beginnings
that are shared where the text stands, the innermost first. -/
def codeInText? : (code : Nat) → (stems : List (Option (List Char))) →
    (left : Option (List Char)) → List Char → Option Nat
  | _, _, _, [] => none
  | code, stems, left, '(' :: text => codeInText? code (left :: stems) left text
  | code, stems, _, ')' :: text => codeInText? code stems.tail (stems.tail.headD none) text
  | code, stems, _, '.' :: text => codeInText? (code + 1) stems (stems.headD none) text
  | code, stems, left, ',' :: text =>
    if left == some [] then some code else codeInText? (code + 1) stems (stems.headD none) text
  | code, stems, left, c :: text => codeInText? code stems (left.bind ([c].isPrefixOf? ·)) text

def hexDigit? (c : Char) : Option Nat :=
  if '0' ≤ c && c ≤ '9' then some (c.toNat - 48)
  else if 'A' ≤ c && c ≤ 'F' then some (c.toNat - 55)
  else none

def hexNumber? : (value : Nat) → List Char → Option Nat
  | value, [] => some value
  | value, c :: rest => do hexNumber? (value * 16 + (← hexDigit? c)) rest

def isIn (ranges : List (Nat × Nat)) (code : Nat) : Bool :=
  ranges.any fun (first, last) => first ≤ code && code ≤ last

def unifiedIdeographs : List (Nat × Nat) := [
  (0x3400, 0x4DBF), (0x4E00, 0x9FFF), (0x20000, 0x2A6DF), (0x2A700, 0x2B738),
  (0x2B740, 0x2B81D), (0x2B820, 0x2CEA1), (0x2CEB0, 0x2EBE0), (0x30000, 0x3134A)]

/-- Other characters that are named by their code points, with the beginnings of their names. -/
def numberedNames : List (String × List (Nat × Nat)) := [
  ("CJK COMPATIBILITY IDEOGRAPH-", [(0xF900, 0xFA6D), (0xFA70, 0xFAD9), (0x2F800, 0x2FA1D)]),
  ("KHITAN SMALL SCRIPT CHARACTER-", [(0x18B00, 0x18CD5)]),
  ("NUSHU CHARACTER-", [(0x1B170, 0x1B2FB)])]

def unifiedStem : List Char := "CJK UNIFIED IDEOGRAPH-".toList

/-- Four or five digits number a unified ideograph. -/
def unifiedIdeograph? (digits : List Char) : Option Nat := do
  if digits.length != 4 && digits.length != 5 then none
  let code ← hexNumber? 0 digits
  if isIn unifiedIdeographs code then some code else none

/-- The number in other names has no zero in front. -/
def numbered? (name : List Char) (stem : List Char) (ranges : List (Nat × Nat)) : Option Nat := do
  if !Chars.startsWith name stem then none
  let digits := name.drop stem.length
  if digits.head? == some '0' then none
  let code ← hexNumber? 0 digits
  if isIn ranges code then some code else none

def leadingLetters : List String := [
  "G", "GG", "N", "D", "DD", "R", "M", "B", "BB", "S", "SS", "", "J", "JJ", "C", "K", "T", "P", "H"]

def vowelLetters : List String := [
  "A", "AE", "YA", "YAE", "EO", "E", "YEO", "YE", "O", "WA", "WAE", "OE", "YO", "U", "WEO", "WE",
  "WI", "YU", "EU", "YI", "I"]

def trailingLetters : List String := [
  "", "G", "GG", "GS", "N", "NJ", "NH", "D", "L", "LG", "LM", "LB", "LS", "LT", "LP", "LH", "M",
  "B", "BS", "S", "SS", "NG", "J", "C", "K", "T", "P", "H"]

def hangulStem : List Char := "HANGUL SYLLABLE ".toList

/-- The place and length of the longest letter that a text begins with; `best` is what is known of
the letters before place `i`. -/
def longestLetter (cs : List Char) : (i : Nat) → (best : Option (Nat × Nat)) → List String →
    Option (Nat × Nat)
  | _, best, [] => best
  | i, best, letter :: rest =>
    let fits := Chars.startsWith cs letter.toList && (best.all fun (_, size) => size < letter.length)
    longestLetter cs (i + 1) (if fits then some (i, letter.length) else best) rest

def hangulSyllable? (cs : List Char) : Option Nat := do
  let (leading, size) ← longestLetter cs 0 none leadingLetters
  let cs := cs.drop size
  let (vowel, size) ← longestLetter cs 0 none vowelLetters
  let cs := cs.drop size
  let (trailing, size) ← longestLetter cs 0 none trailingLetters
  if cs.length == size then
    some (0xAC00 + (leading * vowelLetters.length + vowel) * trailingLetters.length + trailing)
  else none

def codeInLine? (name line : List Char) : Option Nat := do
  let (first, text) := line.span (· != ' ')
  codeInText? (← hexNumber? 0 first) [some name] (some name) (text.drop 1)

/-- How many characters are listed, for a list that is unpacked only when a name is looked up. -/
@[noinline] def sizeWhenNeeded (_ : Unit) : Nat := listedSize

def list : Thunk (List Char) := .mk fun u => Packing.unpack (sizeWhenNeeded u) packedList

/-- The code point of a listed name; no name is empty. -/
def listedCode? (name : List Char) : Option Nat :=
  if name.isEmpty then none else (Chars.split list.get ['\n']).findSome? (codeInLine? name)

def code? (name : List Char) : Option Nat :=
  if Chars.startsWith name hangulStem then hangulSyllable? (name.drop hangulStem.length)
  else if Chars.startsWith name unifiedStem then unifiedIdeograph? (name.drop unifiedStem.length)
  else
    let name := name.map asciiUpper
    (numberedNames.findSome? fun (stem, ranges) => numbered? name stem.toList ranges).or
      (listedCode? name)

end BindingStubs.Text.CharacterName
