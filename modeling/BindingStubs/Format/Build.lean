import BindingStubs.OrderedSet
import BindingStubs.Source.Call

set_option autoImplicit false

/-!
# Formats that build values

A build format describes the value that a call makes: units for single values, and tuples, lists
and dictionaries in brackets. Its type is read off the format. Alternatives inside a list or
dictionary form a set, and come in the order in which that set is listed.
-/

namespace BindingStubs.Format

open Text

/-- The units with the types that their documentation gives. -/
def documentedUnits : List (String × String) := [
  ("s", "str or None"), ("s#", "str or None"), ("y", "bytes"), ("y#", "bytes"),
  ("z", "str or None"), ("z#", "str or None"), ("u", "str"), ("u#", "str"), ("U", "str or None"),
  ("U#", "str or None"), ("i", "int"), ("b", "int"), ("h", "int"), ("l", "int"), ("B", "int"),
  ("H", "int"), ("I", "int"), ("k", "int"), ("L", "int"), ("K", "int"), ("n", "int"),
  ("c", "bytes of length 1"), ("C", "str of length 1"), ("d", "float"), ("f", "float"),
  ("D", "complex"), ("O", "object"), ("S", "object"), ("N", "object"), ("O&", "object")]

/-- Only the first word of a documented type counts. -/
def unitType (documented : String) : String :=
  let word := String.ofList (documented.toList.takeWhile (· != ' '))
  if word == "object" then "typing.Any" else word

def buildUnits : List (String × String) :=
  documentedUnits.map fun (unit, documented) => (unit, unitType documented)

def buildUnit? (unit : List Char) : Option String :=
  (buildUnits.find? (fun entry => entry.1.toList == unit)).map Prod.snd

/-- The unit at the start of a format, a longer one first, and its length. -/
def leadingUnit? (format : List Char) : Option (String × Nat) :=
  match buildUnit? (format.take 2) with
  | some type => some (type, (format.take 2).length)
  | none => (buildUnit? (format.take 1)).map fun type => (type, 1)

def closerOf : Char → Option Char
  | '(' => some ')'
  | '[' => some ']'
  | '\x7b' => some '\x7d'
  | _ => none

section

variable (sets : Listing String)

def alternatives (types : List String) : String := join " | " (sets.list types.eraseDups)

def groupInside (format : List Char) (opening closing : Char) : List Char :=
  Chars.dropEnd (Chars.dropStart (Source.blockFrom format 0 opening closing) [opening]) [closing]

def groupPieces (inside : List Char) : List (List Char) :=
  Source.pieces inside 0 (some ',') "([\x7b".toList ")]\x7d".toList

def tupleOf (types : List String) : String := "tuple[" ++ join ", " types ++ "]"

/-- A tuple of one value is not wrapped a second time. -/
def singleTuple (type : String) : String :=
  if startsWith type "tuple[" then type else "tuple[" ++ type ++ "]"

mutual

def buildTypes : (fuel : Nat) → List Char → Except Fault (List String)
  | _, [] => .ok []
  | 0, _ => .error .tooDeep
  | fuel + 1, c :: rest =>
    match closerOf c with
    | some closing => do
      let inside := groupInside (c :: rest) c closing
      let type ← groupType fuel c inside
      return type :: (← buildTypes fuel ((c :: rest).drop (inside.length + 2)))
    | none =>
      match leadingUnit? (c :: rest) with
      | some (type, size) => do
        return type :: (← buildTypes fuel ((c :: rest).drop size))
      | none => .error (.unknownBuildUnit (String.ofList (c :: rest)))

def buildTypeIn : (fuel : Nat) → List Char → Except Fault String
  | 0, _ => .error .tooDeep
  | fuel + 1, format => do
    match ← buildTypes fuel (format.filter (· != ' ')) with
    | [] => return "None"
    | [type] => return type
    | types => return tupleOf types

def buildAll : (fuel : Nat) → List (List Char) → Except Fault (List String)
  | _, [] => .ok []
  | 0, _ => .error .tooDeep
  | fuel + 1, piece :: rest => do
    let type ← buildTypeIn fuel piece
    return type :: (← buildAll fuel rest)

/-- The types of keys and values; an entry without a colon is refused. -/
def buildEntries : (fuel : Nat) → List (List Char) → Except Fault (List (String × String))
  | _, [] => .ok []
  | 0, _ => .error .tooDeep
  | fuel + 1, piece :: rest =>
    match Chars.cutFirst? piece [':'] with
    | none => .error .badValue
    | some (key, value) => do
      let key ← buildTypeIn fuel key
      let value ← buildTypeIn fuel value
      return (key, value) :: (← buildEntries fuel rest)

def groupType : (fuel : Nat) → Char → List Char → Except Fault String
  | 0, _, _ => .error .tooDeep
  | fuel + 1, opening, inside =>
    let items := groupPieces inside
    if opening == '\x7b' then do
      let entries ← buildEntries fuel items
      return "dict[" ++ alternatives sets (entries.map Prod.fst) ++ ", " ++
        alternatives sets (entries.map Prod.snd) ++ "]"
    else if opening == '[' then do
      return "list[" ++ alternatives sets (← buildAll fuel items) ++ "]"
    else match items with
      | [[]] => .ok "tuple[()]"
      | [item] => do return singleTuple (← buildTypeIn fuel item)
      | items => do return tupleOf (← buildAll fuel items)

end

/-- Enough for every format: each level of nesting takes four units and each item one. -/
def buildFuel (format : List Char) : Nat := 6 * format.length + 8

def buildType (format : String) : Except Fault String :=
  buildTypeIn sets (buildFuel format.toList) format.toList

end

end BindingStubs.Format
