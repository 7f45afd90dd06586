import BindingStubs.Signature.Parameter

set_option autoImplicit false

/-!
# Symbols of argument formats

A format tells how arguments are taken: units for single arguments, groups in parentheses, and marks
for the start of optional and of keyword-only ones.
-/

namespace BindingStubs.Format

/-- One kind of argument: the Python type, and the number of C arguments that receive it. -/
structure ArgumentUnit where
  code : String
  type : String
  size : Nat
  deriving DecidableEq, Repr

def argumentUnits : List ArgumentUnit := [
  ⟨"s", "str", 1⟩, ⟨"s*", "str", 1⟩, ⟨"s#", "str", 2⟩,
  ⟨"z", "str", 1⟩, ⟨"z*", "str", 1⟩, ⟨"z#", "str", 2⟩,
  ⟨"y", "bytes", 1⟩, ⟨"y*", "bytes", 1⟩, ⟨"y#", "bytes", 2⟩,
  ⟨"S", "bytes", 1⟩, ⟨"Y", "bytearray", 1⟩,
  ⟨"u", "str", 1⟩, ⟨"u#", "str", 2⟩, ⟨"Z", "str", 1⟩, ⟨"Z#", "str", 2⟩, ⟨"U", "str", 1⟩,
  ⟨"w*", "bytes", 1⟩,
  ⟨"es", "str", 2⟩, ⟨"et", "str", 2⟩, ⟨"es#", "str", 3⟩, ⟨"et#", "str", 3⟩,
  ⟨"b", "int", 1⟩, ⟨"B", "int", 1⟩, ⟨"h", "int", 1⟩, ⟨"H", "int", 1⟩, ⟨"i", "int", 1⟩,
  ⟨"I", "int", 1⟩, ⟨"l", "int", 1⟩, ⟨"k", "int", 1⟩, ⟨"L", "int", 1⟩, ⟨"K", "int", 1⟩,
  ⟨"n", "int", 1⟩,
  ⟨"c", "bytes", 1⟩, ⟨"C", "str", 1⟩, ⟨"f", "float", 1⟩, ⟨"d", "float", 1⟩,
  ⟨"D", "complex", 1⟩,
  ⟨"O", "typing.Any", 1⟩, ⟨"O!", "typing.Any", 2⟩, ⟨"O&", "typing.Any", 2⟩, ⟨"p", "bool", 1⟩]

def pointerCode : String := "O!"

def unitNamed? (code : List Char) : Option ArgumentUnit :=
  argumentUnits.find? fun u => u.code.toList == code

def argumentUnit? (cs : List Char) : Option ArgumentUnit :=
  ((unitNamed? (cs.take 3)).or (unitNamed? (cs.take 2))).or (unitNamed? (cs.take 1))

inductive Symbol where
  | unit (u : ArgumentUnit)
  | groupStart
  | groupEnd
  | optional
  | keywordOnly
  | unknown
  deriving DecidableEq, Repr

def markOf (c : Char) : Symbol :=
  if c == '(' then .groupStart
  else if c == ')' then .groupEnd
  else if c == '|' then .optional
  else if c == '$' then .keywordOnly
  else .unknown

def isFormatEnd (c : Char) : Bool := c == ':' || c == ';'

/-- The symbols of a format, each with the format from there on; `skip` characters belong to the
unit before. -/
def symbolsFrom : (skip : Nat) → List Char → List (Symbol × List Char)
  | _, [] => []
  | skip + 1, _ :: rest => symbolsFrom skip rest
  | 0, c :: rest =>
    match argumentUnit? (c :: rest) with
    | some u => (.unit u, c :: rest) :: symbolsFrom (u.code.length - 1) rest
    | none =>
      if isFormatEnd c then [] else (markOf c, c :: rest) :: symbolsFrom 0 rest

def symbols (format : String) : List (Symbol × List Char) := symbolsFrom 0 format.toList

/-- The default of an argument: none, one that is not known, or a known one. -/
inductive SlotDefault where
  | absent
  | unknown
  | known (d : DefaultValue)

namespace SlotDefault

def isAbsent : SlotDefault → Bool
  | absent => true
  | _ => false

def isUnknown : SlotDefault → Bool
  | unknown => true
  | _ => false

def text : SlotDefault → String
  | absent => "<class 'inspect._empty'>"
  | unknown => "None"
  | known d => d.text

def toDefault? : SlotDefault → Option DefaultValue
  | absent => none
  | unknown => some (.literal .none)
  | known d => some d

end SlotDefault

structure Slot where
  type : String
  name : String
  default : SlotDefault

namespace Slot

def commonName (first : Slot) (rest : List Slot) : String :=
  if rest.all fun s => s.name == first.name then first.name
  else Text.join "_" ((first :: rest).map Slot.name)

def tupleText (items : List String) : String :=
  match items with
  | [item] => "(" ++ item ++ ",)"
  | items => "(" ++ Text.join ", " items ++ ")"

def commonDefault (slots : List Slot) : SlotDefault :=
  if slots.all fun s => s.default.isUnknown then .unknown
  else if slots.all fun s => s.default.isAbsent then .absent
  else .known (.expression (tupleText (slots.map fun s => s.default.text)))

def tupleType (slots : List Slot) : String :=
  "tuple[" ++ Text.join ", " (slots.map Slot.type) ++ "]"

/-- Slots of a group as one slot; a group must not be empty. -/
def ofGroup : List Slot → Except Fault Slot
  | [] => .error .outOfRange
  | first :: rest => .ok {
      type := tupleType (first :: rest)
      name := commonName first rest
      default := commonDefault (first :: rest) }

end Slot

structure Groups where
  open_ : List (List Slot) := []

namespace Groups

def isOpen (g : Groups) : Bool := !g.open_.isEmpty

def start (g : Groups) : Groups := ⟨[] :: g.open_⟩

def add (g : Groups) (s : Slot) : Except Fault Groups :=
  match g.open_ with
  | [] => .error .outOfRange
  | inner :: outer => .ok ⟨(inner ++ [s]) :: outer⟩

/-- Closes the innermost group. It is closed even if it holds nothing. -/
def finish (g : Groups) : Except Fault Slot × Groups :=
  match g.open_ with
  | [] => (.error .outOfRange, g)
  | inner :: outer => (Slot.ofGroup inner, ⟨outer⟩)

end Groups

end BindingStubs.Format
