import BindingStubs.Literal.Basic

set_option autoImplicit false

/-!
# The order of sets

The members of a set are shown in the order of their slots in a table.
-/

namespace BindingStubs.Literal

open Decimal

/-- A prime, so that fractions have residues too. -/
def residueModulus : Nat := Nat.pow 2 61 - 1

def avoidAllBits (hash other : UInt64) : UInt64 := if hash == 0 - 1 then other else hash

def residueHash (negative : Bool) (residue : Nat) : UInt64 :=
  let word := (residue % residueModulus).toUInt64
  avoidAllBits (if negative then 0 - word else word) (0 - 2)

/-- A power of two has the residue of its exponent modulo 61. -/
def realHash : Binary → UInt64
  | .finite negative m p => residueHash negative (m * Nat.pow 2 (p % 61).toNat)
  | .infinite negative => residueHash negative 314159

def complexHash (re im : Binary) : UInt64 :=
  avoidAllBits (realHash re + 1000003 * realHash im) (0 - 2)

def mixHash (hash lane : UInt64) : UInt64 :=
  let sum := hash + lane * 14029467366897019727
  ((sum <<< 31) ||| (sum >>> 33)) * 11400714785074694791

def tupleSeed : UInt64 := 2870177450012600261

mutual

def hash? : Literal → Option UInt64
  | .bool b => some (if b then 1 else 0)
  | .int n => some (residueHash (n < 0) n.natAbs)
  | .real x => some (realHash x)
  | .complex re im => some (complexHash re im)
  | .text [] => some 0
  | .bytes [] => some 0
  | .tuple items => do
    let hash ← tupleHash? tupleSeed items
    return avoidAllBits (hash + (items.length.toUInt64 ^^^ (tupleSeed ^^^ 3527539))) 1546275796
  | _ => Option.none

def tupleHash? : UInt64 → List Literal → Option UInt64
  | hash, [] => some hash
  | hash, item :: rest => do tupleHash? (mixHash hash (← hash? item)) rest

end

abbrev Hashed := UInt64 × Literal

/-- How many slots after the first are tried before going elsewhere. -/
def nearbySlots : Nat := 9

def slotsFrom (size i : Nat) : List Nat :=
  if i + nearbySlots < size then List.range' i (nearbySlots + 1) else [i]

/-- The first free slot. `rest` are the bits of the hash that still count, `i` is the next slot. -/
def freeSlot (slots : Array (Option Hashed)) : (fuel : Nat) → (rest i : Nat) → Nat
  | 0, _, i => i
  | fuel + 1, rest, i =>
    match (slotsFrom slots.size i).find? fun j => (slots[j]?.join).isNone with
    | some j => j
    | Option.none =>
      let rest := rest / 32
      freeSlot slots fuel rest ((i * 5 + 1 + rest) % slots.size)

def place (slots : Array (Option Hashed)) (member : Hashed) : Array (Option Hashed) :=
  let hash := member.1.toNat
  slots.setIfInBounds (freeSlot slots (slots.size + 64) hash (hash % slots.size)) (some member)

def leastSize : Nat := 8

def sizeAbove (least : Nat) : (fuel size : Nat) → Nat
  | 0, size => size
  | fuel + 1, size => if size ≤ least then sizeAbove least fuel (2 * size) else size

def emptySlots (size : Nat) : Array (Option Hashed) := Array.replicate size Option.none

def members (slots : Array (Option Hashed)) : List Hashed := slots.toList.filterMap id

def grownSize (count : Nat) : Nat :=
  let least := if 50000 < count then count * 2 else count * 4
  sizeAbove least (least + 1) leastSize

def add (slots : Array (Option Hashed)) (count : Nat) (member : Hashed) : Array (Option Hashed) :=
  let slots := place slots member
  if count * 5 < (slots.size - 1) * 3 then slots
  else (members slots).foldl place (emptySlots (grownSize count))

def addAll (slots : Array (Option Hashed)) : (count : Nat) → List Hashed → Array (Option Hashed)
  | _, [] => slots
  | count, member :: rest => addAll (add slots (count + 1) member) (count + 1) rest

def setOrder (items : List Literal) : List Literal :=
  match items.mapM fun item => item.hash?.map fun hash => (hash, item) with
  | some hashed => (members (addAll (emptySlots leastSize) 0 hashed)).map Prod.snd
  | Option.none => items

end BindingStubs.Literal
