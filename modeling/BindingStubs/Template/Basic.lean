import BindingStubs.Fault

set_option autoImplicit false

/-!
# Templates

A template is a text with fields in braces, each of which stands for a named text.
-/

namespace BindingStubs.Template

/-! ## Layouts of inserted texts

A text is filled up to a width on either side, and cut to a number of characters. A layout that is
for numbers only is refused. -/

inductive Side where
  | left
  | right
  | centre
  deriving DecidableEq, Repr

structure Layout where
  fill : Char := ' '
  side : Side := .left
  width : Nat := 0
  most : Option Nat := none
  deriving Repr

def mostNumber : Nat := Nat.pow 2 63 - 1

/-- The number that digits write; without digits there is none. -/
def number? (digits : List Char) : Except Fault (Option Nat) :=
  let n := digits.foldl (fun n c => 10 * n + (c.toNat - '0'.toNat)) 0
  if digits.isEmpty then .ok none
  else if mostNumber < n then .error .badValue
  else .ok (some n)

def side? (c : Char) : Option Side :=
  if c == '<' then some .left
  else if c == '>' then some .right
  else if c == '^' then some .centre
  else none

def placement (cs : List Char) : Option Char × Side × List Char :=
  match cs with
  | fill :: c :: rest => match side? c, side? fill with
    | some side, _ => (some fill, side, rest)
    | none, some side => (none, side, c :: rest)
    | none, none => (none, .left, cs)
  | [c] => match side? c with
    | some side => (none, side, [])
    | none => (none, .left, cs)
  | [] => (none, .left, [])

def limit? : List Char → Except Fault (Option Nat)
  | [] | ['s'] => .ok none
  | '.' :: rest => do
    let some most ← number? (rest.takeWhile Text.isAsciiDigit) | .error .badValue
    match rest.dropWhile Text.isAsciiDigit with
    | [] | ['s'] => .ok (some most)
    | _ => .error .badValue
  | _ => .error .badValue

/-- The layout that characters write. A zero before the width fills with zeros. -/
def Layout.read (cs : List Char) : Except Fault Layout := do
  let (fill, side, rest) := placement cs
  let zeros := fill.isNone && rest.head? == some '0'
  let width ← number? (rest.takeWhile Text.isAsciiDigit)
  let most ← limit? (rest.dropWhile Text.isAsciiDigit)
  return { fill := fill.getD (if zeros then '0' else ' '), side, width := width.getD 0, most }

def Layout.apply (l : Layout) (text : List Char) : List Char :=
  let cut := match l.most with
    | some n => text.take n
    | none => text
  let missing := l.width - cut.length
  let before := match l.side with
    | .left => 0
    | .right => missing
    | .centre => missing / 2
  List.replicate before l.fill ++ cut ++ List.replicate (missing - before) l.fill

/-- A field in braces: its name with the steps after it, how its text is shown, and its layout. -/
structure Field where
  path : List Char
  shown : Option Char := none
  layout : List Char := []
  deriving DecidableEq, Repr

inductive Piece where
  | plain (c : Char)
  | field (f : Field)
  deriving DecidableEq, Repr

def andThen {β : Type} (c : Char) (read : Except Fault (List Char × β)) :
    Except Fault (List Char × β) :=
  read.map fun (cs, rest) => (c :: cs, rest)

/-- The name of a field with its steps, and what stands from its end on. Square brackets may hold
anything. -/
def readPath : (inside : Bool) → List Char → Except Fault (List Char × List Char)
  | _, [] => .error .badValue
  | true, c :: rest => andThen c (readPath (c != ']') rest)
  | false, c :: rest =>
    if c == '\x7b' then .error .badValue
    else if c == '\x7d' || c == ':' || c == '!' then .ok ([], c :: rest)
    else andThen c (readPath (c == '[') rest)

def readLayout : (depth : Nat) → List Char → Except Fault (List Char × List Char)
  | _, [] => .error .badValue
  | depth, c :: rest =>
    if c == '\x7b' then andThen c (readLayout (depth + 1) rest)
    else if c == '\x7d' then match depth with
      | 0 => .ok ([], rest)
      | outer + 1 => andThen c (readLayout outer rest)
    else andThen c (readLayout depth rest)

def readField (cs : List Char) : Except Fault (Field × List Char) := do
  let (path, rest) ← readPath false cs
  match rest with
  | '!' :: shown :: ':' :: rest =>
    let (layout, rest) ← readLayout 0 rest
    return ({ path, shown := some shown, layout }, rest)
  | '!' :: shown :: '\x7d' :: rest => return ({ path, shown := some shown }, rest)
  | ':' :: rest =>
    let (layout, rest) ← readLayout 0 rest
    return ({ path, layout }, rest)
  | '\x7d' :: rest => return ({ path }, rest)
  | _ => .error .badValue

def pieces : (fuel : Nat) → List Char → List (Except Fault Piece)
  | 0, _ | _, [] => []
  | fuel + 1, c :: rest =>
    if c != '\x7b' && c != '\x7d' then .ok (.plain c) :: pieces fuel rest
    else if rest.head? == some c then .ok (.plain c) :: pieces fuel rest.tail
    else if c == '\x7d' then [.error .badValue]
    else match readField rest with
      | .ok (f, rest) => .ok (.field f) :: pieces fuel rest
      | .error fault => [.error fault]

abbrev Values := List (String × String)

def startsStep (c : Char) : Bool := c == '.' || c == '['

/-- The text at the end of the steps after a name. A step in brackets is the place of a character;
texts have no parts with names. -/
def follow : (fuel : Nat) → (text : List Char) → (steps : List Char) → Except Fault (List Char)
  | 0, text, _ | _, text, [] => .ok text
  | fuel + 1, text, c :: rest =>
    if c == '[' then do
      let place := rest.takeWhile (· != ']')
      let after := rest.drop place.length
      if place.isEmpty || after.isEmpty then .error .badValue
      else if !place.all Text.isAsciiDigit then .error .wrongType
      else match text[((← number? place).getD 0)]? with
        | some c => follow fuel [c] after.tail
        | none => .error .outOfRange
    else if c == '.' then
      if (rest.takeWhile fun c => !startsStep c).isEmpty then .error .badValue
      else .error .noSuchAttribute
    else .error .badValue

def lookUp (values : Values) (path : List Char) : Except Fault (List Char) := do
  let name := path.takeWhile fun c => !startsStep c
  if name.isEmpty then .error .outOfRange
  else if name.all Text.isAsciiDigit then
    let _ ← number? name
    .error .outOfRange
  else match values.lookup (String.ofList name) with
    | some text => follow path.length text.toList (path.drop name.length)
    | none => .error .noSuchKey

def asciiForm (c : Char) : List Char := if c.toNat < 0x80 then [c] else Text.codeEscape c.toNat

def showAs (shown : Option Char) (text : List Char) : Except Fault (List Char) :=
  let quoted := Text.quotedCodes (text.map Char.toNat)
  match shown with
  | none | some 's' => .ok text
  | some 'r' => .ok quoted
  | some 'a' => .ok (quoted.flatMap asciiForm)
  | some _ => .error .badValue

/-- A template with its fields filled. A layout is a template too if it has fields, up to the given
depth. -/
def fillTo (values : Values) : (depth : Nat) → List Char → Except Fault (List Char)
  | 0, _ => .error .badValue
  | depth + 1, template => do
    let texts ← Fault.collect ((pieces template.length template).map fun read => do
      match ← read with
      | .plain c => return [c]
      | .field f =>
        let text ← showAs f.shown (← lookUp values f.path)
        let written ←
          if f.layout.contains '\x7b' then fillTo values depth f.layout else .ok f.layout
        if written.isEmpty then return text
        else return (← Layout.read written).apply text)
    return texts.flatten

def fill (values : Values) (template : String) : Except Fault String :=
  (fillTo values 2 template.toList).map String.ofList

end BindingStubs.Template
