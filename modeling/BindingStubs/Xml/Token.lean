import BindingStubs.Pattern.Reader
import BindingStubs.Source.Decode
import BindingStubs.Xml.Encoding

set_option autoImplicit false

/-!
# XML tokens

The tags and texts of an XML document in order.
-/

namespace BindingStubs.Xml

open Text Pattern

/-- Text that a reference or a marked section stands for is `quoted`: it may not stand outside the
root, even if it is blank. -/
inductive Token where
  | opened (name : List Char) (attributes : List (List Char × List Char)) (closed : Bool)
  | closing (name : List Char)
  | chars (cs : List Char)
  | quoted (cs : List Char)
  deriving Repr

def isXmlSpace (c : Char) : Bool := c == ' ' || c == '\t' || c == '\n' || c == '\r'

def isXmlChar (c : Char) : Bool :=
  let n := c.toNat
  n == 9 || n == 10 || n == 13 || (32 ≤ n && n != 0xFFFE && n != 0xFFFF)

def isXmlNameStart (c : Char) : Bool := isNameStart c || c == ':'

def isXmlNamePart (c : Char) : Bool := isNamePart c || c == ':' || c == '-' || c == '.'

def skipSpace (cs : List Char) : List Char := cs.dropWhile isXmlSpace

def name? (cs : List Char) : Option (List Char × List Char) :=
  match cs with
  | c :: _ =>
    if isXmlNameStart c then some (cs.takeWhile isXmlNamePart, cs.dropWhile isXmlNamePart) else none
  | [] => none

def entity? (name : List Char) : Option Char :=
  match String.ofList name with
  | "lt" => some '<'
  | "gt" => some '>'
  | "amp" => some '&'
  | "quot" => some '"'
  | "apos" => some '\''
  | _ => none

def charReference? (code : Nat) : Option Char :=
  if code != 0 && code < 0x110000 && !Text.isSurrogate code && isXmlChar (Char.ofNat code) then
    some (Char.ofNat code)
  else none

def reference? (cs : List Char) : Option (Char × List Char) :=
  let body := cs.takeWhile (· != ';')
  let rest := (cs.dropWhile (· != ';')).drop 1
  if body.length == cs.length then none
  else match body with
    | '#' :: 'x' :: digits =>
      if !digits.isEmpty && digits.all isHexDigit then
        (charReference? (numberOf 16 digits)).map fun c => (c, rest)
      else none
    | '#' :: digits =>
      if !digits.isEmpty && digits.all isAsciiDigit then
        (charReference? (numberOf 10 digits)).map fun c => (c, rest)
      else none
    | name => (entity? name).map fun c => (c, rest)

def value? (quote : Char) : (fuel : Nat) → List Char → Option (List Char × List Char)
  | 0, _ => none
  | _, [] => none
  | fuel + 1, c :: rest =>
    if c == quote then some ([], rest)
    else if c == '<' || !isXmlChar c then none
    else if c == '&' then do
      let (d, rest) ← reference? rest
      let (value, after) ← value? quote fuel rest
      return (d :: value, after)
    else do
      let (value, after) ← value? quote fuel rest
      return ((if isXmlSpace c then ' ' else c) :: value, after)

def attributes? : (fuel : Nat) → List Char →
    Option (List (List Char × List Char) × Bool × List Char)
  | 0, _ => none
  | fuel + 1, cs =>
    match skipSpace cs with
    | '>' :: rest => some ([], false, rest)
    | '/' :: '>' :: rest => some ([], true, rest)
    | written => do
      if written.length == cs.length then none
      let (name, rest) ← name? written
      match skipSpace rest with
      | '=' :: rest =>
        match skipSpace rest with
        | quote :: rest =>
          if quote == '"' || quote == '\'' then
            let (value, rest) ← value? quote (rest.length + 1) rest
            let (more, closed, after) ← attributes? fuel rest
            if more.any (fun entry => entry.1 == name) then none
            else return ((name, value) :: more, closed, after)
          else none
        | [] => none
      | _ => none

def upTo? (ending cs : List Char) : Option (List Char × List Char) := Chars.cutFirst? cs ending

def afterComment? (cs : List Char) : Option (List Char) := do
  let (body, rest) ← upTo? ['-', '-'] cs
  if body.any (fun c => !isXmlChar c) then none
  match rest with
  | '>' :: rest => some rest
  | _ => none

def afterInstruction? (cs : List Char) : Option (List Char) := do
  let (target, rest) ← name? cs
  if (target.map asciiLower) == ['x', 'm', 'l'] || target.contains ':' then none
  let (body, after) ← upTo? ['?', '>'] rest
  if body.any (fun c => !isXmlChar c) then none
  match body with
  | [] => some after
  | c :: _ => if isXmlSpace c then some after else none

def afterDoctype? : (quote : Option Char) → (depth : Nat) → List Char → Option (List Char)
  | _, _, [] => none
  | some q, depth, c :: rest => afterDoctype? (if c == q then none else some q) depth rest
  | none, depth, c :: rest =>
    if c == '"' || c == '\'' then afterDoctype? (some c) depth rest
    else if c == '[' || c == '<' then afterDoctype? none (depth + 1) rest
    else if c == ']' then afterDoctype? none (depth - 1) rest
    else if c == '>' then
      match depth with
      | 0 => some rest
      | depth + 1 => afterDoctype? none depth rest
    else afterDoctype? none depth rest

def tokenLoop : (fuel : Nat) → List Char → Option (List Token)
  | 0, _ => none
  | _, [] => some []
  | fuel + 1, '<' :: rest =>
    match rest with
    | '!' :: '-' :: '-' :: rest => do tokenLoop fuel (← afterComment? rest)
    | '!' :: '[' :: 'C' :: 'D' :: 'A' :: 'T' :: 'A' :: '[' :: rest => do
      let (body, rest) ← upTo? [']', ']', '>'] rest
      if body.any (fun c => !isXmlChar c) then none
      return .quoted body :: (← tokenLoop fuel rest)
    | '?' :: rest => do tokenLoop fuel (← afterInstruction? rest)
    | '/' :: rest => do
      let (name, rest) ← name? rest
      match skipSpace rest with
      | '>' :: rest => return .closing name :: (← tokenLoop fuel rest)
      | _ => none
    | rest => do
      let (name, rest) ← name? rest
      let (attributes, closed, rest) ← attributes? (rest.length + 1) rest
      return .opened name attributes closed :: (← tokenLoop fuel rest)
  | fuel + 1, '&' :: rest => do
    let (c, rest) ← reference? rest
    return .quoted [c] :: (← tokenLoop fuel rest)
  | fuel + 1, cs => do
    let plain := cs.takeWhile fun c => c != '<' && c != '&'
    if plain.any (fun c => !isXmlChar c) || Chars.contains plain [']', ']', '>'] then none
    return .chars plain :: (← tokenLoop fuel (cs.drop plain.length))

/-- Values of a declaration hold letters, digits, points, lines and dashes; an encoding starts with a
letter, and whether a document stands alone is said by a word. -/
def isDeclared (field : List Char × List Char) : Bool :=
  field.2.all (fun c => isAsciiLetter c || isAsciiDigit c || c == '.' || c == '_' || c == '-') &&
    match String.ofList field.1 with
    | "encoding" => (field.2.head?).any isAsciiLetter
    | "standalone" => field.2 == "yes".toList || field.2 == "no".toList
    | _ => true

def declaration? (cs : List Char) : Option (Option String × List Char) :=
  match cs with
  | '<' :: '?' :: 'x' :: 'm' :: 'l' :: c :: rest =>
    if isXmlSpace c then do
      let (body, after) ← upTo? ['?', '>'] rest
      let (fields, closed, left) ← attributes? (body.length + 3) (' ' :: body ++ ['>'])
      if closed || !left.isEmpty || body.contains '&' || !fields.all isDeclared then none
      match fields.map fun entry => String.ofList entry.1 with
      | ["version"] | ["version", "standalone"] => return (none, after)
      | ["version", "encoding"] | ["version", "encoding", "standalone"] =>
        return ((fields[1]?).map fun entry => String.ofList entry.2, after)
      | _ => none
    else some (none, cs)
  | _ => some (none, cs)

/-- White space, comments, instructions and at most one document type before the root. -/
def prolog? : (fuel : Nat) → (typed : Bool) → List Char → Option (List Char)
  | 0, _, _ => none
  | fuel + 1, typed, cs =>
    match skipSpace cs with
    | '<' :: '!' :: '-' :: '-' :: rest => do prolog? fuel typed (← afterComment? rest)
    | '<' :: '?' :: rest => do prolog? fuel typed (← afterInstruction? rest)
    | '<' :: '!' :: 'D' :: 'O' :: 'C' :: 'T' :: 'Y' :: 'P' :: 'E' :: c :: rest => do
      if typed || !isXmlSpace c then none
      prolog? fuel true (← afterDoctype? none 0 rest)
    | rest => some rest

def tokens? (cs : List Char) : Option (List Token) := do
  let (_, rest) ← declaration? cs
  let start ← prolog? (rest.length + 1) false rest
  tokenLoop (start.length + 1) start

def utf16Loop? (swap : Bool) : (fuel : Nat) → List UInt8 → Option (List Char)
  | 0, _ => none
  | _, [] => some []
  | fuel + 1, a :: b :: rest =>
    let unit := if swap then b.toNat * 256 + a.toNat else a.toNat * 256 + b.toNat
    if 0xD800 ≤ unit && unit < 0xDC00 then
      match rest with
      | c :: d :: rest =>
        let low := if swap then d.toNat * 256 + c.toNat else c.toNat * 256 + d.toNat
        if 0xDC00 ≤ low && low < 0xE000 then
          (utf16Loop? swap fuel rest).map
            (Char.ofNat (0x10000 + (unit - 0xD800) * 0x400 + (low - 0xDC00)) :: ·)
        else none
      | _ => none
    else if 0xDC00 ≤ unit && unit < 0xE000 then none
    else (utf16Loop? swap fuel rest).map (Char.ofNat unit :: ·)
  | _, [_] => none

def orMalformed {α : Type} : Option α → Except Fault α
  | some a => .ok a
  | none => .error .malformedXml

/-- The characters of octet pairs; the document names no other encoding than this one. -/
def decodePairs (swap : Bool) (octets : List UInt8) : Except Fault (List Char) := do
  let cs ← orMalformed (utf16Loop? swap (octets.length + 1) octets)
  let (encoding, _) ← orMalformed (declaration? cs)
  if ["utf-16", "utf-16be", "utf-16le"].contains ((encoding.map lowerAscii).getD "utf-16") then
    return cs
  else throw .malformedXml

def decodeNamed (octets : List UInt8) : Except Fault (List Char) := do
  let (encoding, _) ← orMalformed (declaration? (Source.latin1 octets))
  match (encoding.map lowerAscii).getD "utf-8" with
  | "utf-8" => orMalformed (Source.utf8? octets)
  | "utf-16" | "utf-16be" | "utf-16le" => throw .malformedXml
  | name => match Encoding.named name with
    | .table upper => orMalformed (Encoding.decode? upper octets)
    | .foreign => throw .malformedXml
    | .multiple => throw .badValue
    | .refusing => throw .undecodable
    | .narrow => throw .undecodableOctet
    | .unknown => throw .unknownEncoding

def decode (octets : List UInt8) : Except Fault (List Char) :=
  match octets with
  | 0xFE :: 0xFF :: rest => decodePairs false rest
  | 0xFF :: 0xFE :: rest => decodePairs true rest
  | 0xEF :: 0xBB :: 0xBF :: rest => decodeNamed rest
  | octets => decodeNamed octets

end BindingStubs.Xml
