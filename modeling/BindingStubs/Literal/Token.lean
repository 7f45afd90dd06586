import BindingStubs.Literal.Basic
import BindingStubs.Pattern.Reader

set_option autoImplicit false

/-! # Tokens of literals -/

namespace BindingStubs.Literal

open Decimal Text Pattern

inductive Token where
  | value (v : Literal)
  | quotedText (codes : List Nat)
  | quotedBytes (octets : List Nat)
  | name (s : String)
  | mark (c : Char)

def digitRun (isDigit : Char → Bool) : List Char → List Char × List Char
  | [] => ([], [])
  | '_' :: c :: rest =>
    if isDigit c then
      let (more, after) := digitRun isDigit rest
      (c :: more, after)
    else ([], '_' :: c :: rest)
  | c :: rest =>
    if isDigit c then
      let (more, after) := digitRun isDigit rest
      (c :: more, after)
    else ([], c :: rest)

def digitRun? (isDigit : Char → Bool) (cs : List Char) : Option (List Char × List Char) :=
  match cs with
  | c :: _ => if isDigit c then some (digitRun isDigit cs) else Option.none
  | [] => Option.none

/-- A number must not run into a word. -/
def endsWord (rest : List Char) : Bool :=
  match rest with
  | c :: _ => !isNamePart c
  | [] => true

def radixNumber? (base : Nat) (isDigit : Char → Bool) (cs : List Char) :
    Option (Literal × List Char) := do
  let cs := match cs with
    | '_' :: rest => rest
    | cs => cs
  let (digits, rest) ← digitRun? isDigit cs
  if endsWord rest then some (.int (numberOf base digits), rest) else Option.none

def exponent? : List Char → Option (Option Int × List Char)
  | e :: cs =>
    if e == 'e' || e == 'E' then
      match cs with
      | '+' :: rest => (digitRun? isAsciiDigit rest).map fun (ds, after) => (some (numberOf 10 ds : Int), after)
      | '-' :: rest => (digitRun? isAsciiDigit rest).map fun (ds, after) => (some (-(numberOf 10 ds : Int)), after)
      | cs => (digitRun? isAsciiDigit cs).map fun (ds, after) => (some (numberOf 10 ds : Int), after)
    else some (Option.none, e :: cs)
  | [] => some (Option.none, [])

def decimalNumber? (cs : List Char) : Option (Literal × List Char) := do
  let (whole, rest) := (digitRun? isAsciiDigit cs).getD ([], cs)
  let (point, fraction, rest) := match rest with
    | '.' :: after =>
      match digitRun? isAsciiDigit after with
      | some (ds, more) => (true, ds, more)
      | Option.none => (true, [], after)
    | rest => (false, [], rest)
  if whole.isEmpty && fraction.isEmpty then Option.none
  else
    let (e, rest) ← exponent? rest
    let digits := whole ++ fraction
    let x := Binary.ofScientific (numberOf 10 digits) digits.length (e.getD 0 - fraction.length)
    let imaginary := match rest with
      | 'j' :: after => some after
      | 'J' :: after => some after
      | _ => Option.none
    match imaginary with
    | some after => if endsWord after then some (.complex Binary.zero x, after) else Option.none
    | Option.none =>
      if !endsWord rest then Option.none
      else if point || e.isSome then some (.real x, rest)
      else if whole.head? == some '0' && whole.any (· != '0') then Option.none
      else if mostDigits < whole.length && whole.head? != some '0' then Option.none
      else some (.int (numberOf 10 whole), rest)

def number? : List Char → Option (Literal × List Char)
  | '0' :: c :: rest =>
    if c == 'x' || c == 'X' then radixNumber? 16 isHexDigit rest
    else if c == 'o' || c == 'O' then radixNumber? 8 isOctalDigit rest
    else if c == 'b' || c == 'B' then radixNumber? 2 (fun d => d == '0' || d == '1') rest
    else decimalNumber? ('0' :: c :: rest)
  | cs => decimalNumber? cs

def quotedBody? (quote : Char) (long : Bool) : List Char → Option (List Char × List Char)
  | [] => Option.none
  | '\\' :: c :: rest => (quotedBody? quote long rest).map fun (b, a) => ('\\' :: c :: b, a)
  | c :: rest =>
    if c == quote then
      if !long then some ([], rest)
      else if rest.take 2 == [quote, quote] then some ([], rest.drop 2)
      else (quotedBody? quote long rest).map fun (b, a) => (c :: b, a)
    else if c == '\\' then Option.none
    else if c == '\n' && !long then Option.none
    else (quotedBody? quote long rest).map fun (b, a) => (c :: b, a)

def hexEscape? (count : Nat) (cs : List Char) : Option (Nat × List Char) :=
  let digits := cs.take count
  if digits.length == count && digits.all isHexDigit then
    some (numberOf 16 digits, cs.drop count)
  else Option.none

def nameEscape? (cs : List Char) : Option (Nat × List Char) :=
  match cs with
  | '\x7b' :: rest =>
    match Chars.cutFirst? rest ['\x7d'] with
    | some (name, after) => (CharacterName.code? name).map fun code => (code, after)
    | Option.none => Option.none
  | _ => Option.none

/-- Characters with their escapes resolved, as code points; `octets` leaves out the escapes that
only texts have. -/
def unescape? (octets : Bool) : (fuel : Nat) → List Char → Option (List Nat)
  | 0, _ => Option.none
  | _, [] => some []
  | fuel + 1, '\\' :: c :: rest =>
    let one (n : Nat) := (unescape? octets fuel rest).map (n :: ·)
    let hex (count : Nat) := do
      let (n, after) ← hexEscape? count rest
      (unescape? octets fuel after).map (n :: ·)
    match c with
    | '\n' => unescape? octets fuel rest
    | '\\' | '\'' | '"' => one c.toNat
    | 'a' => one 7
    | 'b' => one 8
    | 'f' => one 12
    | 'n' => one 10
    | 'r' => one 13
    | 't' => one 9
    | 'v' => one 11
    | 'x' => hex 2
    | _ =>
      if !octets && c == 'u' then hex 4
      else if !octets && c == 'U' then hex 8
      else if !octets && c == 'N' then do
        let (n, after) ← nameEscape? rest
        (unescape? octets fuel after).map (n :: ·)
      else if isOctalDigit c then
        let digits := c :: (rest.take 2).takeWhile isOctalDigit
        let n := numberOf 8 digits
        (unescape? octets fuel (rest.drop (digits.length - 1))).map
          ((if octets then n % 256 else n) :: ·)
      else (one c.toNat).map ('\\'.toNat :: ·)
  | fuel + 1, c :: rest => (unescape? octets fuel rest).map (c.toNat :: ·)

def quotedToken? (letters : List Char) (cs : List Char) : Option (Token × List Char) := do
  let lower := letters.map asciiLower
  let raw := lower.contains 'r'
  let octets := lower.contains 'b'
  if !([[], ['r'], ['u'], ['b'], ['b', 'r'], ['r', 'b']] : List (List Char)).contains lower then
    Option.none
  else match cs with
  | quote :: rest =>
    let (long, rest) := match rest with
      | d :: e :: after => if d == quote && e == quote then (true, after) else (false, rest)
      | _ => (false, rest)
    let (body, after) ← quotedBody? quote long rest
    if octets && body.any (fun c => 128 ≤ c.toNat) then Option.none
    else
      let codes ← if raw then some (body.map Char.toNat) else unescape? octets (body.length + 1) body
      if octets then some (.quotedBytes codes, after)
      else if codes.all (· < 0x110000) then some (.quotedText codes, after)
      else Option.none
  | [] => Option.none

def isMark (c : Char) : Bool :=
  c == '(' || c == ')' || c == '[' || c == ']' || c == '\x7b' || c == '\x7d' || c == ',' ||
    c == ':' || c == '+' || c == '-'

def depthAfter (depth : Nat) (c : Char) : Nat :=
  if c == '(' || c == '[' || c == '\x7b' then depth + 1
  else if c == ')' || c == ']' || c == '\x7d' then depth - 1
  else depth

def formFeed : Char := Char.ofNat 12

def isLineSpace (c : Char) : Bool := c == ' ' || c == '\t' || c == formFeed

def tabWidth : Nat := 8

/-- The indentation of a line and the text after it. A form feed takes indentation back. A line may
be continued before anything stands on it: then indentation before the first continuation counts
alone (`kept`), if there is any. Nothing is continued at the end of the text. -/
def indentation? : (column kept : Nat) → List Char → Option (Nat × List Char)
  | column, kept, c :: rest =>
    if c == ' ' then indentation? (column + 1) kept rest
    else if c == '\t' then indentation? ((column / tabWidth + 1) * tabWidth) kept rest
    else if c == formFeed then indentation? 0 kept rest
    else if c == '\\' then
      match rest with
      | '\n' :: d :: after => indentation? column (if kept == 0 then column else kept) (d :: after)
      | _ => Option.none
    else some (if kept == 0 then column else kept, c :: rest)
  | column, kept, [] => some (if kept == 0 then column else kept, [])

/-- The text from the first line on that has more than blanks and a comment. What is not blank must
not be indented, and neither must the end of the text. -/
def nextLine? : (fuel : Nat) → List Char → Option (List Char)
  | 0, _ => Option.none
  | fuel + 1, cs => do
    let (column, rest) ← indentation? 0 0 cs
    match rest with
    | '\n' :: after => nextLine? fuel after
    | '#' :: comment =>
      match comment.dropWhile (· != '\n') with
      | _ :: after => nextLine? fuel after
      | [] => some []
    | rest => if column == 0 then some rest else Option.none

def deepestNesting : Nat := 200

def tokenLoop : (fuel depth : Nat) → List Char → Option (List Token)
  | 0, _, _ => Option.none
  | _, _, [] => some []
  | fuel + 1, depth, c :: rest =>
    if isLineSpace c then tokenLoop fuel depth rest
    else if c == '\n' then
      if depth == 0 then
        match nextLine? (rest.length + 1) rest with
        | some [] => some []
        | _ => Option.none
      else tokenLoop fuel depth rest
    else if c == '#' then tokenLoop fuel depth (rest.dropWhile (· != '\n'))
    else if c == '\\' then
      match rest with
      | '\n' :: d :: after => tokenLoop fuel depth (d :: after)
      | _ => Option.none
    else if c == '"' || c == '\'' then do
      let (t, after) ← quotedToken? [] (c :: rest)
      return t :: (← tokenLoop fuel depth after)
    else if c == '.' && rest.take 2 == ['.', '.'] then do
      return .value .ellipsis :: (← tokenLoop fuel depth (rest.drop 2))
    else if isAsciiDigit c || c == '.' then do
      let (v, after) ← number? (c :: rest)
      return .value v :: (← tokenLoop fuel depth after)
    else if isNameStart c then
      let word := c :: rest.takeWhile isNamePart
      let after := rest.dropWhile isNamePart
      match after with
      | q :: _ =>
        if q == '"' || q == '\'' then do
          let (t, after) ← quotedToken? word after
          return t :: (← tokenLoop fuel depth after)
        else (tokenLoop fuel depth after).map (Token.name (String.ofList word) :: ·)
      | [] => some [Token.name (String.ofList word)]
    else if isMark c then
      let depth := depthAfter depth c
      if deepestNesting < depth then Option.none
      else (tokenLoop fuel depth rest).map (Token.mark c :: ·)
    else Option.none

def unixLines : List Char → List Char
  | [] => []
  | '\r' :: '\n' :: rest => '\n' :: unixLines rest
  | '\r' :: rest => '\n' :: unixLines rest
  | c :: rest => c :: unixLines rest

/-- The tokens of a text; one with a null character has none. -/
def tokens? (cs : List Char) : Option (List Token) := do
  if cs.contains (Char.ofNat 0) then Option.none
  let cs := unixLines (cs.dropWhile (fun c => c == ' ' || c == '\t'))
  let start ← nextLine? (cs.length + 1) cs
  tokenLoop (start.length + 1) 0 start

end BindingStubs.Literal
