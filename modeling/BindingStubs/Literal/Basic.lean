import BindingStubs.Decimal.Shortest
import BindingStubs.Fault

set_option autoImplicit false

/-!
# Literal values

The values that a default can have and their printed form.
-/

namespace BindingStubs

open Decimal

inductive Literal where
  | none
  | ellipsis
  | bool (b : Bool)
  | int (n : Int)
  | real (x : Binary)
  | complex (re im : Binary)
  | text (codes : List Nat)
  | bytes (octets : List Nat)
  | tuple (items : List Literal)
  | list (items : List Literal)
  | set (items : List Literal)
  | dict (items : List (Literal × Literal))
  /-- A function or class that is always available, by the form in which it is shown. -/
  | builtin (shown : String)

namespace Literal

instance : Inhabited Literal := ⟨.none⟩

def ofString (s : String) : Literal := .text (s.toList.map Char.toNat)

def intText (n : Int) : String := toString n

def octetChars (quote : Char) (n : Nat) : List Char :=
  let c := Char.ofNat n
  if c == quote || c == '\\' then ['\\', c]
  else if n == 10 then ['\\', 'n']
  else if n == 13 then ['\\', 'r']
  else if n == 9 then ['\\', 't']
  else if 32 ≤ n && n < 127 then [c]
  else Text.codeEscape n

def bytesText (octets : List Nat) : String :=
  let quote := Text.quoteFor octets
  String.ofList ('b' :: quote :: octets.flatMap (octetChars quote) ++ [quote])

/-- A complex number is shown by its imaginary part alone if its real part is a positive zero. -/
def complexText (re im : Binary) : String :=
  let imaginary := partFormat.write im
  if re.isZero && !re.isNegative then imaginary ++ "j"
  else "(" ++ partFormat.write re ++ (if im.isNegative then "" else "+") ++ imaginary ++ "j)"

mutual

def show_ : Literal → String
  | .none => "None"
  | .ellipsis => "Ellipsis"
  | .bool b => if b then "True" else "False"
  | .int n => intText n
  | .real x => realFormat.write x
  | .complex re im => complexText re im
  | .text codes => String.ofList (Text.quotedCodes codes)
  | .bytes octets => bytesText octets
  | .tuple items => match items with
    | [item] => "(" ++ item.show_ ++ ",)"
    | items => "(" ++ showItems items ++ ")"
  | .list items => "[" ++ showItems items ++ "]"
  | .set items => match items with
    | [] => "set()"
    | items => "\x7b" ++ showItems items ++ "\x7d"
  | .dict items => "\x7b" ++ showPairs items ++ "\x7d"
  | .builtin shown => shown

def showItems : List Literal → String
  | [] => ""
  | [item] => item.show_
  | item :: rest => item.show_ ++ ", " ++ showItems rest

def showPairs : List (Literal × Literal) → String
  | [] => ""
  | [(key, value)] => key.show_ ++ ": " ++ value.show_
  | (key, value) :: rest => key.show_ ++ ": " ++ value.show_ ++ ", " ++ showPairs rest

end

/-- Integers have at most so many digits, where they are read and where they are shown. -/
def mostDigits : Nat := 4300

mutual

def isShowable : Literal → Bool
  | .int n => n.natAbs < 10 ^ mostDigits
  | .tuple items | .list items | .set items => areShowable items
  | .dict items => arePairsShowable items
  | _ => true

def areShowable : List Literal → Bool
  | [] => true
  | item :: rest => item.isShowable && areShowable rest

def arePairsShowable : List (Literal × Literal) → Bool
  | [] => true
  | (key, value) :: rest => key.isShowable && value.isShowable && arePairsShowable rest

end

/-- The printed form of a value whose integers are short enough. -/
def shown (v : Literal) : Except Fault String :=
  if v.isShowable then .ok v.show_ else .error .badValue

end Literal

end BindingStubs

namespace BindingStubs.Literal

/-! ## Equal values

Numbers of all kinds are compared by what they stand for, so that `1`, `1.0`, `True` and `1+0j` are
one key of a dictionary and one member of a set. Tuples are compared member by member. -/

open Decimal

inductive Magnitude where
  | ratio (num : Int) (den : Nat)
  | infinite (negative : Bool)

namespace Magnitude

def ofBinary : Binary → Magnitude
  | .finite negative m p =>
    let (num, den) := Binary.shifted m 1 p
    .ratio (if negative then -(num : Int) else num) den
  | .infinite negative => .infinite negative

def isEqual : Magnitude → Magnitude → Bool
  | .ratio a b, .ratio c d => a * d == c * b
  | .infinite a, .infinite b => a == b
  | _, _ => false

end Magnitude

def parts? : Literal → Option (Magnitude × Magnitude)
  | .bool b => some (.ratio (if b then 1 else 0) 1, .ratio 0 1)
  | .int n => some (.ratio n 1, .ratio 0 1)
  | .real x => some (.ofBinary x, .ratio 0 1)
  | .complex re im => some (.ofBinary re, .ofBinary im)
  | _ => Option.none

def isEqualNumber (a b : Literal) : Bool :=
  match a.parts?, b.parts? with
  | some (x, y), some (z, w) => x.isEqual z && y.isEqual w
  | _, _ => false

mutual

/-- Whether two values are equal; sets and dictionaries are not compared. -/
def isEqual : Literal → Literal → Bool
  | .none, .none => true
  | .ellipsis, .ellipsis => true
  | .text a, .text b => a == b
  | .bytes a, .bytes b => a == b
  | .tuple a, .tuple b => allEqual a b
  | .list a, .list b => allEqual a b
  | a, b => isEqualNumber a b

def allEqual : List Literal → List Literal → Bool
  | [], [] => true
  | a :: rest, b :: others => isEqual a b && allEqual rest others
  | _, _ => false

end

end BindingStubs.Literal
