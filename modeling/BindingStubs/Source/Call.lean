import BindingStubs.Fault

set_option autoImplicit false

/-!
# Calls and blocks

The text of a call or block runs from a start to the bracket that brings the count of brackets back
to zero.
-/

namespace BindingStubs.Source

/-! ## Conditional compilation

While a text is scanned, only the first branch of every conditional is looked at. A directive is
recognised at the blank that follows it, among the last eight characters. A scan may begin inside
a conditional, so the outermost level is never left. -/

/-- The branches that are open, innermost first, and the recent characters, newest first. -/
structure Branches where
  inner : Bool := true
  outer : List Bool := []
  recent : List Char := []
  deriving DecidableEq, Repr

def recentLimit : Nat := 8

def endsInAny (backwards : List Char) (words : List String) : Bool :=
  words.any fun word => word.toList.reverse.isPrefixOf backwards

def Branches.see (b : Branches) (c : Char) : Branches :=
  let recent := (c :: b.recent).take recentLimit
  if (c == ' ' || c == '\n' || c == '\t') && recent.contains '#' then
    let word := recent.drop 1
    if endsInAny word ["#endif"] then
      match b.outer with
      | [] => { b with recent := [] }
      | o :: outer => { inner := o, outer := outer, recent := [] }
    else if endsInAny word ["#elif", "#else"] then { b with inner := false, recent := [] }
    else if endsInAny word ["#if", "#ifdef", "#ifndef"] then
      { inner := true, outer := b.inner :: b.outer, recent := [] }
    else { b with recent := recent }
  else { b with recent := recent }

def firstBranches : Branches → Nat → List Char → List (Nat × Char)
  | _, _, [] => []
  | b, i, c :: rest =>
    let b := b.see c
    if b.inner then (i, c) :: firstBranches b (i + 1) rest else firstBranches b (i + 1) rest

def positioned : Nat → List Char → List (Nat × Char)
  | _, [] => []
  | i, c :: rest => (i, c) :: positioned (i + 1) rest

/-- Position of the last character of a block: the first closing bracket after which as many
brackets are closed as opened, or else the last character seen. -/
def blockEnd (opening closing : Char) : (depth : Int) → (last : Nat) → List (Nat × Char) → Nat
  | _, last, [] => last
  | depth, _, (i, c) :: rest =>
    if c == opening then blockEnd opening closing (depth + 1) i rest
    else if c == closing then
      if depth - 1 == 0 then i else blockEnd opening closing (depth - 1) i rest
    else blockEnd opening closing depth i rest

def charactersSeen (text : List Char) (start : Nat) : List (Nat × Char) :=
  let rest := text.drop start
  if Chars.contains text "#if".toList then firstBranches {} start rest else positioned start rest

def blockFrom (text : List Char) (start : Nat) (opening closing : Char) : List Char :=
  Chars.slice text start (blockEnd opening closing 0 0 (charactersSeen text start) + 1)

def startOf (text : List Char) (start : Option Int) : Except Fault Nat :=
  match start with
  | some (.ofNat n) => .ok n
  | some (.negSucc _) => .error .badValue
  | none => match Chars.index? text ['('] with
    | some n => .ok n
    | none => .error .badValue

/-- A bracket is one character; any other text is never met. -/
def bracket? (s : String) : Option Char :=
  match s.toList with
  | [c] => some c
  | _ => none

/-- The block that starts at a place. Where one of the brackets is never met it goes on to the last
character seen. -/
def findBlock (text : String) (start : Option Int) (opening closing : String) :
    Except Fault String := do
  let cs := text.toList
  let n ← startOf cs start
  match bracket? opening, bracket? closing with
  | some l, some r => return String.ofList (blockFrom cs n l r)
  | _, _ =>
    let last := ((charactersSeen cs n).getLast?.map Prod.fst).getD 0
    return String.ofList (Chars.slice cs n (last + 1))

def bodyFrom (text : String) (start : Nat) : String :=
  String.ofList (blockFrom text.toList start '\x7b' '\x7d')

def callFrom (text : String) (start : Nat) : String :=
  String.ofList (blockFrom text.toList start '(' ')')

/-- What is inside a scan: the depth of brackets, and whether a string or an escape is open. -/
structure Inside where
  depth : Nat := 0
  quoted : Bool := false
  escaped : Bool := false
  deriving DecidableEq, Repr

/-- The pieces of a text between separators; `piece` is the current one, reversed. A closing
bracket that was never opened ends the last piece. -/
def piecesLoop (openings closings : List Char) (separator : Option Char) :
    Inside → (piece : List Char) → List Char → List (List Char)
  | _, piece, [] => [piece.reverse]
  | s, piece, c :: rest =>
    let go (s : Inside) := piecesLoop openings closings separator s (c :: piece) rest
    if s.escaped then go { s with escaped := false }
    else if c == '\\' then go { s with escaped := true }
    else if c == '"' then go { s with quoted := !s.quoted }
    else if s.quoted then go s
    else if openings.contains c then go { s with depth := s.depth + 1 }
    else if closings.contains c then
      match s.depth with
      | 0 => [piece.reverse]
      | depth + 1 => go { s with depth := depth }
    else if separator == some c && s.depth == 0 then
      piece.reverse :: piecesLoop openings closings separator s [] rest
    else go s

def pieces (text : List Char) (start : Nat) (separator : Option Char)
    (openings closings : List Char) : List (List Char) :=
  piecesLoop openings closings separator {} [] (text.drop start)

/-- A separator that could be mistaken for a bracket, a quote or an escape is refused. -/
def cutPieces (text : String) (start : Int) (separator openings closings : String) :
    Except Fault (List String) := do
  if Text.contains ("\\\"" ++ openings ++ closings) separator then
    throw (.badSeparator separator)
  match start with
  | .negSucc _ => throw .badValue
  | .ofNat n =>
    let one := match separator.toList with
      | [c] => some c
      | _ => none
    return (pieces text.toList n one openings.toList closings.toList).map String.ofList

def commaPieces (text : String) (start : Nat := 0) : List String :=
  (pieces text.toList start (some ',') ['('] [')']).map String.ofList

def bracePieces (text : String) (start : Nat) (separator : Option Char) : List String :=
  (pieces text.toList start separator ['\x7b'] ['\x7d']).map String.ofList

/-- The text between the first opening and the last closing parenthesis; without a closing one the
last character is lost. -/
def callInside (call : List Char) : List Char :=
  let start := ((Chars.index? call ['(']).map (· + 1)).getD 0
  let stop := (Chars.lastIndex? call [')']).getD (call.length - 1)
  Chars.slice call start stop

def argumentsOf (text : List Char) (start : Nat) : List String :=
  let inside := callInside (blockFrom text start '(' ')')
  ((pieces inside 0 (some ',') ['('] [')']).map Chars.trim).filterMap fun piece =>
    if piece.isEmpty then none else some (String.ofList piece)

def callArguments (text : String) (start : Option Int) : Except Fault (List String) := do
  let cs := text.toList
  return argumentsOf cs (← startOf cs start)

def afterBrace (text : String) : Nat :=
  ((Chars.index? text.toList ['\x7b']).map (· + 1)).getD 0

end BindingStubs.Source
