import BindingStubs.Pattern.Basic

set_option autoImplicit false

/-!
# Matching

A run of a pattern at a place of a text, in continuation style: `run node spot next` returns the
first way to get through `node` after which `next` succeeds.
-/

namespace BindingStubs.Pattern

/-- A place in a text. `passed` holds the characters before it, nearest first, and `left` is the
number of characters of `rest`. -/
structure Spot where
  passed : List Char
  rest : List Char
  place : Nat
  left : Nat
  caught : List (Nat × Nat × Nat)

abbrev Next := Spot → Option Spot

def Spot.move (s : Spot) (c : Char) (rest : List Char) : Spot :=
  { s with passed := c :: s.passed, rest := rest, place := s.place + 1, left := s.left - 1 }

def Spot.back? : Nat → Spot → Option Spot
  | 0, s => some s
  | n + 1, s =>
    match s.passed with
    | [] => none
    | c :: passed =>
      Spot.back? n { s with passed := passed, rest := c :: s.rest, place := s.place - 1, left := s.left + 1 }

def Spot.caught? (s : Spot) (index : Nat) : Option (Nat × Nat) :=
  (s.caught.find? (fun entry => entry.1 == index)).map Prod.snd

def Spot.hold (s : Spot) (index start : Nat) : Spot :=
  { s with caught := (index, start, s.place) :: s.caught.filter (fun entry => entry.1 != index) }

/-- Is a place at the edge of a word, or not at one, as wanted? An empty text has no such place. -/
def Spot.isWordEdge (s : Spot) (ascii wanted : Bool) : Bool :=
  let before := match s.passed with | [] => false | c :: _ => CharKind.word.has ascii c
  let after := match s.rest with | [] => false | c :: _ => CharKind.word.has ascii c
  !(s.passed.isEmpty && s.rest.isEmpty) && (before != after) == wanted

def spread (has : Char → Bool) : Option Nat → List Char → Spot → List Spot → List Spot
  | _, [], s, earlier => s :: earlier
  | bound, c :: rest, s, earlier =>
    if bound == some 0 then s :: earlier
    else if has c then spread has (bound.map (· - 1)) rest (s.move c rest) (s :: earlier)
    else s :: earlier

def firstOf (next : Next) : List Spot → Option Spot
  | [] => none
  | s :: more => match next s with
    | some r => some r
    | none => firstOf next more

def fewest (has : Char → Bool) (next : Next) : Option Nat → List Char → Spot → Option Spot
  | _, [], s => next s
  | bound, c :: rest, s =>
    match next s with
    | some r => some r
    | none =>
      if bound == some 0 then none
      else if has c then fewest has next (bound.map (· - 1)) rest (s.move c rest)
      else none

def exactly? (has : Char → Bool) : Nat → Spot → Option Spot
  | 0, s => some s
  | n + 1, s => match s.rest with
    | [] => none
    | c :: rest => if has c then exactly? has n (s.move c rest) else none

def runSet (has : Char → Bool) (atLeast : Nat) (atMost : Option Nat) (greed : Greed) (s : Spot)
    (next : Next) : Option Spot :=
  match exactly? has atLeast s with
  | none => none
  | some s =>
    let bound := atMost.map (· - atLeast)
    match greed with
    | .most => firstOf next (spread has bound s.rest s [])
    | .least => fewest has next bound s.rest s
    | .keep => firstOf next ((spread has bound s.rest s []).take 1)

def timesOf (body : Spot → Next → Option Spot) : Nat → Spot → Next → Option Spot
  | 0, s, next => next s
  | n + 1, s, next => body s (fun t => timesOf body n t next)

def manyOf (body : Spot → Next → Option Spot) : (fuel : Nat) → Option Nat → Spot → Next →
    Option Spot
  | 0, _, s, next => next s
  | fuel + 1, bound, s, next =>
    if bound == some 0 then next s
    else
      match body s (fun t =>
        if t.place == s.place then next t else manyOf body fuel (bound.map (· - 1)) t next) with
      | some r => some r
      | none => next s

def fewOf (body : Spot → Next → Option Spot) : (fuel : Nat) → Option Nat → Spot → Next →
    Option Spot
  | 0, _, s, next => next s
  | fuel + 1, bound, s, next =>
    match next s with
    | some r => some r
    | none =>
      if bound == some 0 then none
      else body s (fun t =>
        if t.place == s.place then next t else fewOf body fuel (bound.map (· - 1)) t next)

/-- A body gone through `n` times, each time in its first way only. -/
def keepTimes (body : Spot → Next → Option Spot) : Nat → Spot → Option Spot
  | 0, s => some s
  | n + 1, s => (body s some).bind (keepTimes body n)

/-- As many rounds as possible, each in its first way only. A round that takes nothing is the last. -/
def keepOf (body : Spot → Next → Option Spot) : (fuel : Nat) → Option Nat → Spot → Spot
  | 0, _, s => s
  | fuel + 1, bound, s =>
    if bound == some 0 then s
    else match body s some with
      | none => s
      | some t => if t.place == s.place then t else keepOf body fuel (bound.map (· - 1)) t

/-- Takes `part` off the rest of the text; only lower-case forms are compared. -/
def Spot.take? (f : Text.Folding) : List Char → Spot → Option Spot
  | [], s => some s
  | c :: part, s => match s.rest with
    | [] => none
    | d :: rest =>
      if f.lower c.toNat == f.lower d.toNat then Spot.take? f part (s.move d rest) else none

/-- The first way through a node after which `next` succeeds. -/
def run (text : List Char) : Node → Spot → Next → Option Spot
  | .empty, s, next => next s
  | .set cs, s, next => match s.rest with
    | [] => none
    | c :: rest => if cs.has c then next (s.move c rest) else none
  | .seq a b, s, next => run text a s (fun t => run text b t next)
  | .alt a b, s, next => match run text a s next with
    | some r => some r
    | none => run text b s next
  | .rounds body atLeast atMost greed, s, next =>
    match body with
    | .set cs => runSet cs.has atLeast atMost greed s next
    | _ =>
      let bound := atMost.map (· - atLeast)
      match greed with
      | .most => timesOf (run text body) atLeast s fun t =>
        manyOf (run text body) (t.left + 1) bound t next
      | .least => timesOf (run text body) atLeast s fun t =>
        fewOf (run text body) (t.left + 1) bound t next
      | .keep => match keepTimes (run text body) atLeast s with
        | some t => next (keepOf (run text body) (t.left + 1) bound t)
        | none => none
  | .capture index body, s, next => run text body s (fun t => next (t.hold index s.place))
  | .again index folding _, s, next => match s.caught? index with
    | none => none
    | some (start, stop) => match s.take? folding ((text.take stop).drop start) with
      | some t => next t
      | none => none
  | .ahead wanted body, s, next => match run text body s some with
    | some t => if wanted then next { s with caught := t.caught } else none
    | none => if wanted then none else next s
  | .behind wanted width body, s, next =>
    match (s.back? width).bind (fun t => run text body t some) with
    | some t => if wanted then next { s with caught := t.caught } else none
    | none => if wanted then none else next s
  | .atomic body, s, next => match run text body s some with
    | some t => next t
    | none => none
  | .given index yes no, s, next =>
    if (s.caught? index).isSome then run text yes s next else run text no s next
  | .textStart, s, next => if s.passed.isEmpty then next s else none
  | .textEnd, s, next => if s.rest.isEmpty then next s else none
  | .lastLineEnd, s, next =>
    if s.rest.isEmpty || s.rest == ['\n'] then next s else none
  | .lineStart, s, next => match s.passed with
    | [] => next s
    | c :: _ => if c == '\n' then next s else none
  | .lineEnd, s, next => match s.rest with
    | [] => next s
    | c :: _ => if c == '\n' then next s else none
  | .wordEdge ascii wanted, s, next => if s.isWordEdge ascii wanted then next s else none

structure Match where
  text : List Char
  start : Nat
  stop : Nat
  caught : List (Nat × Nat × Nat)

def Match.whole (m : Match) : String := String.ofList ((m.text.take m.stop).drop m.start)

def Match.group? (m : Match) (index : Nat) : Option String :=
  (m.caught.find? (fun entry => entry.1 == index)).map fun (_, start, stop) =>
    String.ofList ((m.text.take stop).drop start)

def Match.group (m : Match) (index : Nat) : String := (m.group? index).getD ""

namespace Regex

def spotAt (text : List Char) (lo : Nat) : Spot :=
  let passed := (text.take lo).reverse
  let rest := text.drop lo
  { passed := passed, rest := rest, place := passed.length, left := rest.length, caught := [] }

def accept (start : Nat) (mustMove : Bool) (s : Spot) : Option Spot :=
  if mustMove && s.place == start then none else some s

/-- Tries every place of the rest in turn; only the first one may be barred from an empty match. -/
def scan (r : Regex) (text : List Char) : (mustMove : Bool) → List Char → Spot →
    Option (Nat × Spot)
  | mustMove, [], s => (run text r.node s (accept s.place mustMove)).map fun t => (s.place, t)
  | mustMove, c :: rest, s =>
    match run text r.node s (accept s.place mustMove) with
    | some t => some (s.place, t)
    | none => scan r text false rest (s.move c rest)

def toMatch (text : List Char) (found : Nat × Spot) : Match :=
  { text := text, start := found.1, stop := found.2.place, caught := found.2.caught }

def searchIn (r : Regex) (text : List Char) (lo hi : Nat) : Option Match :=
  let text := text.take hi
  if text.length < lo then none
  else
    let s := spotAt text lo
    (scan r text false s.rest s).map (toMatch text)

def search (r : Regex) (s : String) : Option Match :=
  let text := s.toList
  searchIn r text 0 text.length

def matchesLoop (r : Regex) (text : List Char) : (fuel : Nat) → (mustMove : Bool) → Spot →
    List Match
  | 0, _, _ => []
  | fuel + 1, mustMove, s =>
    match scan r text mustMove s.rest s with
    | none => []
    | some found =>
      toMatch text found ::
        matchesLoop r text fuel (found.1 == found.2.place) { found.2 with caught := [] }

def matchesIn (r : Regex) (text : List Char) (lo hi : Nat) : List Match :=
  let text := text.take hi
  if text.length < lo then []
  else matchesLoop r text (2 * text.length + 2) false (spotAt text lo)

def allMatches (r : Regex) (s : String) : List Match :=
  let text := s.toList
  matchesIn r text 0 text.length

def named (r : Regex) (name : String) : Nat :=
  ((r.names.find? (fun entry => entry.1 == name)).map Prod.snd).getD 0

end Regex

end BindingStubs.Pattern
