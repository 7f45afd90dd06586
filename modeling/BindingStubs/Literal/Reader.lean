import BindingStubs.Literal.SetOrder
import BindingStubs.Literal.Token

set_option autoImplicit false

/-! # Reading literals -/

namespace BindingStubs.Literal

open Decimal

inductive Expr where
  | value (v : Literal)
  | plus (e : Expr)
  | minus (e : Expr)
  | add (a b : Expr)
  | sub (a b : Expr)
  | tuple (items : List Expr)
  | list (items : List Expr)
  | set (items : List Expr)
  | dict (items : List (Expr × Expr))

inductive Refusal where
  | notLiteral
  /-- A list, set or dictionary where only fixed values can stand. -/
  | changeable
  deriving DecidableEq, Repr

def isMarkToken (c : Char) : List Token → Bool
  | .mark d :: _ => c == d
  | _ => false

def joinTexts (first : List Nat) : List Token → List Nat × List Token
  | .quotedText s :: rest => joinTexts (first ++ s) rest
  | rest => (first, rest)

def joinBytes (first : List Nat) : List Token → List Nat × List Token
  | .quotedBytes s :: rest => joinBytes (first ++ s) rest
  | rest => (first, rest)

def startsQuoted : List Token → Bool
  | .quotedText _ :: _ => true
  | .quotedBytes _ :: _ => true
  | _ => false

mutual

def readSum : (fuel : Nat) → List Token → Option (Expr × List Token)
  | 0, _ => Option.none
  | fuel + 1, ts => do
    let (first, rest) ← readSigned fuel ts
    readTerms fuel first rest

def readTerms : (fuel : Nat) → Expr → List Token → Option (Expr × List Token)
  | 0, _, _ => Option.none
  | fuel + 1, left, ts => match ts with
    | .mark '+' :: rest => do
      let (right, rest) ← readSigned fuel rest
      readTerms fuel (.add left right) rest
    | .mark '-' :: rest => do
      let (right, rest) ← readSigned fuel rest
      readTerms fuel (.sub left right) rest
    | rest => some (left, rest)

def readSigned : (fuel : Nat) → List Token → Option (Expr × List Token)
  | 0, _ => Option.none
  | fuel + 1, ts => match ts with
    | .mark '+' :: rest => (readSigned fuel rest).map fun (e, rest) => (.plus e, rest)
    | .mark '-' :: rest => (readSigned fuel rest).map fun (e, rest) => (.minus e, rest)
    | ts => readAtom fuel ts

def readAtom : (fuel : Nat) → List Token → Option (Expr × List Token)
  | 0, _ => Option.none
  | fuel + 1, ts => match ts with
    | .value v :: rest => some (.value v, rest)
    | .quotedText s :: rest =>
      let (s, rest) := joinTexts s rest
      if startsQuoted rest then Option.none else some (.value (.text s), rest)
    | .quotedBytes s :: rest =>
      let (s, rest) := joinBytes s rest
      if startsQuoted rest then Option.none else some (.value (.bytes s), rest)
    | .name "None" :: rest => some (.value .none, rest)
    | .name "True" :: rest => some (.value (.bool true), rest)
    | .name "False" :: rest => some (.value (.bool false), rest)
    | .name "set" :: .mark '(' :: .mark ')' :: rest => some (.set [], rest)
    | .mark '(' :: .mark ')' :: rest => some (.tuple [], rest)
    | .mark '(' :: rest => do
      let (first, rest) ← readSum fuel rest
      match rest with
      | .mark ')' :: rest => some (first, rest)
      | .mark ',' :: rest => do
        let (items, rest) ← readItems fuel ')' rest
        some (.tuple (first :: items), rest)
      | _ => Option.none
    | .mark '[' :: rest => do
      let (items, rest) ← readItems fuel ']' rest
      some (.list items, rest)
    | .mark '\x7b' :: .mark '\x7d' :: rest => some (.dict [], rest)
    | .mark '\x7b' :: rest => do
      let (first, rest) ← readSum fuel rest
      match rest with
      | .mark ':' :: rest => do
        let (value, rest) ← readSum fuel rest
        let (items, rest) ← readPairs fuel rest
        some (.dict ((first, value) :: items), rest)
      | .mark ',' :: rest => do
        let (items, rest) ← readItems fuel '\x7d' rest
        some (.set (first :: items), rest)
      | .mark '\x7d' :: rest => some (.set [first], rest)
      | _ => Option.none
    | _ => Option.none

def readItems : (fuel : Nat) → (close : Char) → List Token → Option (List Expr × List Token)
  | 0, _, _ => Option.none
  | fuel + 1, close, ts =>
    if isMarkToken close ts then some ([], ts.drop 1)
    else do
      let (first, rest) ← readSum fuel ts
      match rest with
      | .mark ',' :: rest => do
        let (more, rest) ← readItems fuel close rest
        some (first :: more, rest)
      | rest => if isMarkToken close rest then some ([first], rest.drop 1) else Option.none

def readPairs : (fuel : Nat) → List Token → Option (List (Expr × Expr) × List Token)
  | 0, _ => Option.none
  | fuel + 1, ts => match ts with
    | .mark '\x7d' :: rest => some ([], rest)
    | .mark ',' :: .mark '\x7d' :: rest => some ([], rest)
    | .mark ',' :: rest => do
      let (key, rest) ← readSum fuel rest
      match rest with
      | .mark ':' :: rest => do
        let (value, rest) ← readSum fuel rest
        let (more, rest) ← readPairs fuel rest
        some ((key, value) :: more, rest)
      | _ => Option.none
    | _ => Option.none

end

def readOpenItems : (fuel : Nat) → List Token → Option (List Expr)
  | 0, _ => Option.none
  | fuel + 1, ts => match ts with
    | [] | [.mark ','] => some []
    | .mark ',' :: rest => do
      let (item, rest) ← readSum (4 * rest.length + 8) rest
      return item :: (← readOpenItems fuel rest)
    | _ => Option.none

def readExpr? (ts : List Token) : Option Expr := do
  let (first, rest) ← readSum (4 * ts.length + 8) ts
  let more ← readOpenItems (rest.length + 1) rest
  return if rest.isEmpty then first else .tuple (first :: more)

mutual

def isFixed : Literal → Bool
  | .list _ | .set _ | .dict _ => false
  | .tuple items => allFixed items
  | _ => true

def allFixed : List Literal → Bool
  | [] => true
  | item :: rest => isFixed item && allFixed rest

end

def insertKey (items : List (Literal × Literal)) (key value : Literal) : List (Literal × Literal) :=
  if items.any (fun entry => entry.1.isEqual key) then
    items.map fun entry => if entry.1.isEqual key then (entry.1, value) else entry
  else items ++ [(key, value)]

def signed? : Expr → Except Refusal Literal
  | .plus (.value v) => match v with
    | .int _ | .real _ | .complex _ _ => .ok v
    | _ => .error .notLiteral
  | .minus (.value v) => match v with
    | .int n => .ok (.int (-n))
    | .real x => .ok (.real x.negate)
    | .complex re im => .ok (.complex re.negate im.negate)
    | _ => .error .notLiteral
  | .value v => match v with
    | .int _ | .real _ | .complex _ _ => .ok v
    | _ => .error .notLiteral
  | _ => .error .notLiteral

def realPart? (v : Literal) : Except Refusal Binary :=
  match v with
  | .int n => match Binary.ofInt n with
    | .infinite _ => .error .changeable
    | x => .ok x
  | .real x => .ok x
  | _ => .error .notLiteral

/-- Adding a positive zero turns a negative zero into a positive one. -/
def plusZero (x : Binary) : Binary := if x.isZero then Binary.zero else x

mutual

def evaluate : Expr → Except Refusal Literal
  | .value v => .ok v
  | .plus e => signed? (.plus e)
  | .minus e => signed? (.minus e)
  | .add a (.value (.complex _ im)) => do
    let re ← realPart? (← signed? a)
    return .complex (plusZero re) (plusZero im)
  | .sub a (.value (.complex _ im)) => do
    let re ← realPart? (← signed? a)
    return .complex re (plusZero im.negate)
  | .add _ _ => .error .notLiteral
  | .sub _ _ => .error .notLiteral
  | .tuple items => (evaluateAll items).map Literal.tuple
  | .list items => (evaluateAll items).map Literal.list
  | .set items => (evaluateMembers items []).map Literal.set
  | .dict items => (evaluateEntries items []).map Literal.dict

def evaluateAll : List Expr → Except Refusal (List Literal)
  | [] => .ok []
  | e :: rest => do
    let v ← evaluate e
    return v :: (← evaluateAll rest)

def evaluateMembers : List Expr → List Literal → Except Refusal (List Literal)
  | [], found => .ok (setOrder found)
  | e :: rest, found => do
    let v ← evaluate e
    if !isFixed v then throw .changeable
    evaluateMembers rest (if found.any (·.isEqual v) then found else found ++ [v])

def evaluateEntries : List (Expr × Expr) → List (Literal × Literal) →
    Except Refusal (List (Literal × Literal))
  | [], found => .ok found
  | (k, e) :: rest, found => do
    let key ← evaluate k
    let value ← evaluate e
    if !isFixed key then throw .changeable
    evaluateEntries rest (insertKey found key value)

end

def read (s : String) : Except Refusal Literal :=
  match (tokens? s.toList).bind readExpr? with
  | some e => evaluate e
  | Option.none => .error .notLiteral

end BindingStubs.Literal
