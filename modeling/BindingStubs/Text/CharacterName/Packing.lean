set_option autoImplicit false

/-!
# Packed texts

A text of capital letters, digits and a few marks, packed into the digits of a number. The number
lies in an interval, which each bit of the text divides into one part for a one and one for a zero,
as wide as the bits are likely. How likely they are is learned from the text before: some contexts
keep what followed them, and their odds are added up with weights that are learned as well. What
followed the last five characters when they were met before counts too.
-/

namespace BindingStubs.Text.Packing

def base : Nat := 90

/-- The value of a digit: any visible character of ASCII but quotes, backslashes and braces. -/
def digit (c : Char) : Nat := c.toNat - 33 - ("\"\\\x7b\x7d".toList.filter (· < c)).length

/-- The interval, the number in it, and the digits that are not in use yet. -/
structure Interval where
  width : Nat
  offset : Nat
  digits : List Char

def Interval.start (digits : List Char) : Interval where
  width := Nat.pow base 5
  offset := (digits.take 5).foldl (fun offset c => offset * base + digit c) 0
  digits := digits.drop 5

def Interval.widen : (shifts : Nat) → Interval → Interval
  | 0, i => i
  | shifts + 1, i =>
    if Nat.pow base 4 ≤ i.width then i
    else widen shifts {
      width := i.width * base
      offset := i.offset * base + (i.digits.head?.map digit).getD 0
      digits := i.digits.tail }

/-- The bit that an interval holds if a one has the given chance out of 4096. -/
def Interval.bit (i : Interval) (chance : Nat) : Bool × Interval :=
  let bound := i.width / 4096 * chance
  if i.offset < bound then (true, widen 2 { i with width := bound })
  else (false, widen 2 { i with width := i.width - bound, offset := i.offset - bound })

/-- The chances out of 4096 at the odds from -2048 to 2048 in steps of 128. -/
def curve : List Nat := [
  1, 2, 3, 6, 10, 16, 27, 45, 73, 120, 194, 310, 488, 747, 1101, 1546, 2047, 2549, 2994, 3348, 3607,
  3785, 3901, 3975, 4022, 4050, 4068, 4079, 4085, 4089, 4092, 4093, 4094]

def chances : Array Nat := ((List.range 4096).map fun n =>
  (curve.getD (n / 128) 0 * (128 - n % 128) + curve.getD (n / 128 + 1) 0 * (n % 128)) / 128).toArray

def limited (odds : Int64) : Int64 := if odds < -2047 then -2047 else if 2047 < odds then 2047 else odds

def chanceOf (odds : Int64) : Nat := chances.getD (odds + 2048).toNatClampNeg 0

def oddsTable : Array Int32 := ((List.range 4096).map fun chance =>
  let step := (curve.filter (· ≤ chance)).length - 1
  let low := curve.getD step 0
  let part := (chance - low) * 128 / (curve.getD (step + 1) 4095 - low)
  (limited (Int64.ofNat (128 * step + part) - 2048)).toInt32).toArray

/-- The odds of a chance out of 65536. -/
def oddsOf (chance : UInt32) : Int64 := (oddsTable.getD (chance >>> 4).toNat 0).toInt64

def alphabet : Array Char := "\n ABCDEFGHIJKLMNOPQRSTUVWXYZ0123456789-(),.".toList.toArray

def mixed (hash value : UInt32) : UInt32 := (hash + value + 1) * 0x2F0B4C47

/-- What has been read, characters by their places in the alphabet: the last ones, and the letters of
the word and of the item between marks; the item before, what is left of it beyond the length of
this one, and whether the two agree so far; the items before the innermost bracket, before the
outermost one, and, with their own stems, before all open ones. The text may repeat itself: `echoed` is
where it goes on if it does, and `echo` for how long it has. -/
structure Past where
  recent : List UInt32 := [0, 0, 0, 0, 0]
  word : UInt32 := 0
  letters : UInt32 := 0
  item : List UInt32 := []
  former : List UInt32 := []
  ahead : List UInt32 := []
  agrees : Bool := true
  stem : UInt32 := 0
  first : UInt32 := 0
  outer : List (List UInt32 × UInt32) := []
  text : Array UInt32 := #[]
  followers : Array UInt32
  echoed : UInt32 := 0
  echo : UInt32 := 0

def recentContexts : (hash : UInt32) → List UInt32 → List UInt32
  | _, [] => []
  | hash, place :: recent => mixed hash place :: recentContexts (mixed hash place) recent

def Past.contexts (past : Past) : List UInt32 :=
  let one := mixed 0 (past.recent.headD 0)
  let word := mixed past.word (past.recent.headD 0)
  let beside (hash : UInt32) :=
    mixed (mixed hash (past.ahead.headD 63)) (past.ahead.tail.headD 63)
  0 :: (recentContexts 0 past.recent).eraseIdx 3 ++
    [word, mixed word past.stem, beside (if past.agrees then one + 977 else one),
      mixed word past.first, beside past.item.length.toUInt32]

def Past.endItem (past : Past) (former : List UInt32) : Past :=
  { past with item := [], former, ahead := former, agrees := true }

def Past.addToItem (past : Past) (place : UInt32) : Past :=
  match alphabet.getD place.toNat ' ' with
  | '(' =>
    let stem := past.item.foldr (fun place hash => mixed hash place) 0
    let first := if past.outer.isEmpty then stem else past.first
    { past.endItem past.former with stem, first, outer := (past.item, past.stem) :: past.outer }
  | ')' => match past.outer with
    | [] => past.endItem past.former
    | (item, stem) :: outer => { past.endItem item.reverse with stem, outer }
  | ',' | '.' | '\n' => past.endItem past.item.reverse
  | _ =>
    { past with
      item := place :: past.item
      ahead := past.ahead.tail
      agrees := past.agrees && past.ahead.head? == some place }

def Past.addToText (past : Past) (place : UInt32) : Past :=
  let { recent, text, followers, echoed, echo, .. } := past
  let goesOn := 0 < echo && text.getD echoed.toNat 0 == place
  let recent := place :: recent.take 4
  let text := text.push place
  let n := ((recentContexts 0 recent).getLastD 0 >>> 12).toNat
  let follower := followers.getD n 0
  let followers := followers.setIfInBounds n text.size.toUInt32
  let past := { past with recent, text, followers }
  if goesOn then { past with echoed := echoed + 1, echo := min 31 (echo + 1) }
  else { past with echoed := follower, echo := if follower == 0 then 0 else 1 }

def Past.add (past : Past) (place : UInt32) : Past :=
  let past := (past.addToText place).addToItem place
  if (alphabet.getD place.toNat ' ').isAlphanum then
    { past with word := mixed past.word place, letters := past.letters + 1 }
  else { past with word := 0, letters := 0 }

/-- The next bit if the text goes on repeating itself. The bits of the character so far are in
`node`, after a one, and `left` more come after the next one. -/
def Past.echoedBit? (past : Past) (left : Nat) (node : UInt32) : Option Bool :=
  let place := (past.text.getD past.echoed.toNat 0).toNat
  if past.echo != 0 && (64 + place) >>> (left + 1) == node.toNat then some (place.testBit left)
  else none

/-- Three rows of weights: one for the bits so far, one for repetitions, one for the depth. -/
structure Rows where
  a : UInt32
  b : UInt32
  c : UInt32

def Past.rows (past : Past) (node : UInt32) (echoed? : Option Bool) : Rows where
  a := node
  b := 64 + (if echoed?.isSome then 1 + min 3 (past.echo / 4) else 0) * 8 +
    (min 7 past.item.length).toUInt32
  c := 128 + min 7 past.letters * 8 + (min 7 past.outer.length).toUInt32

/-- For each context the chance of a one, out of 65536, the chance out of 4096 after the last few
bits, and how often the context was met, up to 15; the weights in rows of 32; and the chances of
repetitions by their lengths. -/
structure Learned where
  kept : Array UInt32
  weights : Array Int32 := Array.replicate 6144 16384
  trust : Array UInt32 := Array.replicate 32 60000

def slot (node k context : UInt32) : Nat :=
  let hash := (context + (node * 16 + k) * 0x3D4D51CB) * 0x85EBCA6B
  (((hash ^^^ (hash >>> 15)) * 0x2C1B3C6D) >>> 8).toNat

def trend (kept : UInt32) : Int64 := (((kept >>> 4) &&& 4095).toUInt64.toInt64 - 2048) >>> 3

structure Sums where
  a : Int64
  b : Int64
  c : Int64

def Sums.map (f : Int64 → Int64) (s : Sums) : Sums := ⟨f s.a, f s.b, f s.c⟩

def Learned.add (l : Learned) (rows : Rows) (input : UInt32) (odds : Int64) (s : Sums) : Sums :=
  let weighted (row : UInt32) := (l.weights.getD (row * 32 + input).toNat 0).toInt64 * odds
  ⟨s.a + weighted rows.a, s.b + weighted rows.b, s.c + weighted rows.c⟩

def Learned.mix (l : Learned) (node : UInt32) (rows : Rows) : (k : UInt32) → List UInt32 → Sums → Sums
  | _, [], s => s.map fun sum => limited (sum >>> 16)
  | k, context :: rest, s =>
    let kept := l.kept.getD (slot node k context) 0
    mix l node rows (k + 1) rest
      (l.add rows (2 * k + 3) (trend kept) (l.add rows (2 * k + 2) (oddsOf (kept >>> 16)) s))

def Learned.echoOdds (l : Learned) (length : UInt32) : Option Bool → Int64
  | none => 0
  | some bit =>
    let odds := oddsOf (l.trust.getD length.toNat 0)
    if bit then odds else -odds

def nearer (bit : Bool) (most chance part : UInt32) : UInt32 :=
  if bit then chance + (most - chance) * 2 / part else chance - chance * 2 / part

def keep (bit : Bool) (kept : UInt32) : UInt32 :=
  let times := kept &&& 15
  nearer bit 65535 (kept >>> 16) (2 * times + 3) <<< 16 |||
    nearer bit 4095 ((kept >>> 4) &&& 4095) 3 <<< 4 ||| min 15 (times + 1)

/-- The weights of an input are shifted by how much their rows missed the bit. -/
def shift (rows : Rows) (misses : Sums) (input : UInt32) (odds : Int64) (weights : Array Int32) :
    Array Int32 :=
  let shiftIn (row : UInt32) (miss : Int64) (weights : Array Int32) :=
    let n := (row * 32 + input).toNat
    weights.setIfInBounds n (weights.getD n 0 + ((odds * miss) >>> 10).toInt32)
  shiftIn rows.c misses.c (shiftIn rows.b misses.b (shiftIn rows.a misses.a weights))

def Learned.learn (bit : Bool) (node : UInt32) (rows : Rows) (misses : Sums) :
    (k : UInt32) → List UInt32 → Learned → Learned
  | _, [], l => l
  | k, context :: rest, l =>
    let { kept, weights, trust } := l
    let slot := slot node k context
    let old := kept.getD slot 0
    let weights := shift rows misses (2 * k + 2) (oddsOf (old >>> 16)) weights
    let weights := shift rows misses (2 * k + 3) (trend old) weights
    let kept := kept.setIfInBounds slot (keep bit old)
    learn bit node rows misses (k + 1) rest { kept, weights, trust }

def Learned.learnEcho (bit : Bool) (length : UInt32) (odds : Int64) (rows : Rows) (misses : Sums)
    (echoed? : Option Bool) (l : Learned) : Learned :=
  match echoed? with
  | none => l
  | some echoed =>
    let { kept, weights, trust } := l
    let n := length.toNat
    let trust := trust.setIfInBounds n (nearer (echoed == bit) 65535 (trust.getD n 0) 128)
    { kept, weights := shift rows misses 0 odds weights, trust }

def readPlace (past : Past) (contexts : List UInt32) : (bits : Nat) → (node : UInt32) → Learned →
    Interval → UInt32 × Learned × Interval
  | 0, node, l, i => (node - 64, l, i)
  | bits + 1, node, l, i =>
    let echoed? := past.echoedBit? bits node
    let echo := l.echoOdds past.echo echoed?
    let rows := past.rows node echoed?
    let sums := l.mix node rows 0 contexts (l.add rows 0 echo ⟨0, 0, 0⟩)
    let (bit, i) := i.bit (chanceOf ((sums.a + sums.b + sums.c) / 3))
    let misses := sums.map fun odds => (if bit then 4096 else 0) - Int64.ofNat (chanceOf odds)
    let l := (l.learn bit node rows misses 0 contexts).learnEcho bit past.echo echo rows misses echoed?
    readPlace past contexts bits (2 * node + if bit then 1 else 0) l i

def readText : (count : Nat) → Past → Learned → Interval → Array UInt32
  | 0, past, _, _ => past.text
  | count + 1, past, l, i =>
    let (place, l, i) := readPlace past past.contexts 6 1 l i
    readText count (past.add place) l i

def unpack (count : Nat) (packed : String) : List Char :=
  let size := if count == 0 then 0 else Nat.pow 2 24
  let places := readText count { followers := Array.replicate (Nat.pow 2 20) 0 }
    { kept := Array.replicate size (Nat.toUInt32 0x80008000) }
    (.start (packed.toList.filter (· != '\n')))
  places.toList.map fun place => alphabet.getD place.toNat ' '

end BindingStubs.Text.Packing
