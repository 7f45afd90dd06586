import BindingStubs.Text.Class

set_option autoImplicit false

/-!
# Text patterns

The syntax tree of a search pattern.
-/

namespace BindingStubs.Pattern

open BindingStubs.Text

inductive CharKind where
  | digit
  | blank
  | word
  deriving Repr, DecidableEq

def CharKind.has (ascii : Bool) (c : Char) : CharKind → Bool
  | .digit => if ascii then isAsciiDigit c else isDecimal c
  | .blank => if ascii then c == ' ' || (9 ≤ c.toNat && c.toNat ≤ 13) else isBlank c
  | .word => if ascii then c.toNat < 128 && isWord c else isWord c

inductive ClassItem where
  | char (code : Nat)
  | range (lo hi : Nat)
  | kind (k : CharKind) (ascii negated : Bool)
  deriving Repr, DecidableEq

def isBetween (lo hi code : Nat) : Bool := lo ≤ code && code ≤ hi

def lastBasic : Nat := 0xFFFF

/-- Does a range hold a code point up to case? Beyond the basic plane only the code point itself and
its upper-case form count. -/
def rangeHas (f : Folding) (lo hi code : Nat) : Bool :=
  (code :: f.twins code).any (fun base => (f.sources base).any (isBetween lo (min hi lastBasic))) ||
    (lastBasic < hi && (isBetween lo hi code || isBetween lo hi ((upperCodes code).headD code)))

/-- Does an item hold a code point that is given by its lower-case form? Beyond the basic plane a
single code point is taken as it is written. -/
def ClassItem.has (f : Folding) (code : Nat) : ClassItem → Bool
  | .char own => if lastBasic < f.lower own then code == own else f.same own code
  | .range lo hi => if f == .none then isBetween lo hi code else rangeHas f lo hi code
  | .kind k ascii negated => k.has ascii (Char.ofNat code) != negated

structure CharSet where
  negated : Bool := false
  folding : Folding := .none
  items : List ClassItem
  deriving Repr, DecidableEq

def CharSet.has (s : CharSet) (c : Char) : Bool :=
  (match s.items with
    | [.char own] => s.folding.same own c.toNat
    | items => items.any (ClassItem.has s.folding (s.folding.lower c.toNat))) != s.negated

/-- How a repetition chooses its number of rounds: as many as possible, as few as possible, or
as many as possible without ever giving one back. -/
inductive Greed where
  | most
  | least
  | keep
  deriving Repr, DecidableEq

/-- Fewest and most characters; `none` is no bound. -/
abbrev Width := Nat × Option Nat

inductive Node where
  | empty
  | set (s : CharSet)
  | seq (a b : Node)
  | alt (a b : Node)
  | rounds (body : Node) (atLeast : Nat) (atMost : Option Nat) (greed : Greed)
  | capture (index : Nat) (body : Node)
  /-- The text that a capture of some width holds, once more. -/
  | again (index : Nat) (folding : Folding) (width : Width)
  | ahead (wanted : Bool) (body : Node)
  /-- Looks back over exactly `width` characters. -/
  | behind (wanted : Bool) (width : Nat) (body : Node)
  | atomic (body : Node)
  /-- One branch if the capture holds a text, the other if not. -/
  | given (index : Nat) (yes no : Node)
  | textStart
  | textEnd
  /-- The end of the text, or the place before a line feed that ends it. -/
  | lastLineEnd
  | lineStart
  | lineEnd
  /-- A place between a word character and another one, or its opposite. -/
  | wordEdge (ascii wanted : Bool)
  deriving Repr, DecidableEq

def mostOf (body : Option Nat) (rounds : Option Nat) : Option Nat :=
  if body == some 0 || rounds == some 0 then some 0 else do return (← body) * (← rounds)

def Node.width : Node → Width
  | .empty => (0, some 0)
  | .set _ => (1, some 1)
  | .seq a b =>
    let (la, ha) := a.width
    let (lb, hb) := b.width
    (la + lb, do return (← ha) + (← hb))
  | .alt a b =>
    let (la, ha) := a.width
    let (lb, hb) := b.width
    (min la lb, do return max (← ha) (← hb))
  | .rounds body atLeast atMost _ =>
    let (lo, hi) := body.width
    (lo * atLeast, mostOf hi atMost)
  | .capture _ body => body.width
  | .again _ _ width => width
  | .ahead _ _ => (0, some 0)
  | .behind _ _ _ => (0, some 0)
  | .atomic body => body.width
  | .given _ yes no =>
    let (la, ha) := yes.width
    let (lb, hb) := no.width
    (min la lb, do return max (← ha) (← hb))
  | .textStart | .textEnd | .lastLineEnd | .lineStart | .lineEnd | .wordEdge _ _ => (0, some 0)

def Node.hasRounds : Node → Bool
  | .rounds _ _ _ _ => true
  | .seq a b | .alt a b | .given _ a b => a.hasRounds || b.hasRounds
  | .capture _ body | .ahead _ body | .behind _ _ body | .atomic body => body.hasRounds
  | _ => false

structure Regex where
  node : Node
  captures : Nat
  names : List (String × Nat)
  deriving Repr

end BindingStubs.Pattern
