import BindingStubs.Text.Chars

set_option autoImplicit false

/-!
# Texts

The operations on lists of characters, for strings.
-/

namespace BindingStubs.Text

def trim (s : String) : String := String.ofList (Chars.trim s.toList)

def trimEnd (s : String) : String := String.ofList (Chars.trimEnd s.toList)

def startsWith (s part : String) : Bool := Chars.startsWith s.toList part.toList

def endsWith (s part : String) : Bool := Chars.endsWith s.toList part.toList

def contains (s part : String) : Bool := Chars.contains s.toList part.toList

def dropStart (s part : String) : String := String.ofList (Chars.dropStart s.toList part.toList)

def dropEnd (s part : String) : String := String.ofList (Chars.dropEnd s.toList part.toList)

def first (s : String) (n : Nat) : String := String.ofList (s.toList.take n)

def after (s : String) (n : Nat) : String := String.ofList (s.toList.drop n)

def shorten (s : String) (n : Nat) : String :=
  String.ofList (s.toList.take (s.toList.length - n))

def inner (s : String) : String := shorten (after s 1) 1

def slice (s : String) (start stop : Nat) : String := String.ofList (Chars.slice s.toList start stop)

def split (s sep : String) : List String :=
  (Chars.split s.toList sep.toList).map String.ofList

def cutFirst? (s sep : String) : Option (String × String) :=
  (Chars.cutFirst? s.toList sep.toList).map fun (a, b) => (String.ofList a, String.ofList b)

def cutLast? (s sep : String) : Option (String × String) :=
  (Chars.cutLast? s.toList sep.toList).map fun (a, b) => (String.ofList a, String.ofList b)

def before (s sep : String) : String := ((cutFirst? s sep).map Prod.fst).getD s

def replace (s old new : String) : String :=
  String.ofList (Chars.replace s.toList old.toList new.toList)

def squeeze (s : String) : String := String.ofList (s.toList.filter (fun c => !isBlank c))

/-- The names in a text, each with a comma at its end. Names that begin alike share their beginning:
`get(,Next,)set,` lists `get`, `getNext` and `set`. `name` is what is read of a name from the right,
and `stems` are the beginnings that are shared where the text stands, the innermost first. -/
def listedFrom : (stems : List (List Char)) → (name : List Char) → List Char → List String
  | _, _, [] => []
  | stems, name, '(' :: text => listedFrom (name :: stems) name text
  | stems, _, ')' :: text => listedFrom stems.tail (stems.tail.headD []) text
  | stems, name, ',' :: text =>
    String.ofList name.reverse :: listedFrom stems (stems.headD []) text
  | stems, name, c :: text => listedFrom stems (if c == '\n' then name else c :: name) text

def listed (text : String) : List String := listedFrom [] [] text.toList

def join (sep : String) (pieces : List String) : String := sep.intercalate pieces

def isIdentifier (s : String) : Bool := isName s.toList

def isAlnumText (s : String) : Bool := !s.isEmpty && s.toList.all isAlnum

def isNumericText (s : String) : Bool := !s.isEmpty && s.toList.all isNumeric

def isDigitText (s : String) : Bool := !s.isEmpty && s.toList.all isDigit

def lowerAscii (s : String) : String := String.ofList (s.toList.map asciiLower)

def precedes (a b : String) : Bool := !(b < a)

def sorted (texts : List String) : List String := texts.mergeSort precedes

def indentWidth : Nat := 4

def indentBy (width : Nat) (s : String) : String :=
  String.ofList (Chars.indentWith (List.replicate width ' ') s.toList)

def indent (s : String) : String := indentBy indentWidth s

def keywords : List String := [
  "False", "None", "True", "and", "as", "assert", "async", "await", "break", "class", "continue",
  "def", "del", "elif", "else", "except", "finally", "for", "from", "global", "if", "import",
  "in", "is", "lambda", "nonlocal", "not", "or", "pass", "raise", "return", "try", "while",
  "with", "yield"]

def isKeyword (s : String) : Bool := keywords.contains s

def hexDigits : (count : Nat) → Nat → List Char
  | 0, _ => []
  | count + 1, n => hexDigits count (n / 16) ++ [Nat.digitChar (n % 16)]

/-- The escape of a character by the shortest form that holds its code point. -/
def codeEscape (n : Nat) : List Char :=
  if n < 0x100 then '\\' :: 'x' :: hexDigits 2 n
  else if n < 0x10000 then '\\' :: 'u' :: hexDigits 4 n
  else '\\' :: 'U' :: hexDigits 8 n

def isSurrogate (code : Nat) : Bool := 0xD800 ≤ code && code < 0xE000

def quotedCode (quote : Char) (code : Nat) : List Char :=
  if isSurrogate code then codeEscape code
  else
    let c := Char.ofNat code
    if c == quote || c == '\\' then ['\\', c]
    else if c == '\n' then ['\\', 'n']
    else if c == '\r' then ['\\', 'r']
    else if c == '\t' then ['\\', 't']
    else if isPrintable c then [c]
    else codeEscape code

def quoteFor (codes : List Nat) : Char :=
  if codes.contains '\''.toNat && !codes.contains '"'.toNat then '"' else '\''

def quotedCodes (codes : List Nat) : List Char :=
  let quote := quoteFor codes
  quote :: codes.flatMap (quotedCode quote) ++ [quote]

def quoted (s : String) : String := String.ofList (quotedCodes (s.toList.map Char.toNat))

def quotedList (texts : List String) : String := "[" ++ join ", " (texts.map quoted) ++ "]"

end BindingStubs.Text
