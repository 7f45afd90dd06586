import BindingStubs.Text.Class

set_option autoImplicit false

/-! # Lists of characters -/

namespace BindingStubs.Chars

open BindingStubs.Text

def dropBlank : List Char → List Char
  | [] => []
  | c :: rest => if isBlank c then dropBlank rest else c :: rest

def trim (cs : List Char) : List Char := (dropBlank (dropBlank cs).reverse).reverse

def trimEnd (cs : List Char) : List Char := (dropBlank cs.reverse).reverse

def startsWith (cs part : List Char) : Bool := part.isPrefixOf cs

def endsWith (cs part : List Char) : Bool := part.isSuffixOf cs

def dropStart (cs part : List Char) : List Char :=
  if part.isPrefixOf cs then cs.drop part.length else cs

def dropEnd (cs part : List Char) : List Char :=
  if part.isSuffixOf cs then cs.take (cs.length - part.length) else cs

def indexFrom (part : List Char) : (base : Nat) → List Char → Option Nat
  | i, [] => if part.isEmpty then some i else none
  | i, c :: rest => if part.isPrefixOf (c :: rest) then some i else indexFrom part (i + 1) rest

def index? (cs part : List Char) : Option Nat := indexFrom part 0 cs

def lastIndexFrom (part : List Char) : (base : Nat) → List Char → Option Nat
  | i, [] => if part.isEmpty then some i else none
  | i, c :: rest =>
    match lastIndexFrom part (i + 1) rest with
    | some j => some j
    | none => if part.isPrefixOf (c :: rest) then some i else none

def lastIndex? (cs part : List Char) : Option Nat := lastIndexFrom part 0 cs

def contains (cs part : List Char) : Bool := (index? cs part).isSome

def slice (cs : List Char) (first last : Nat) : List Char := (cs.take last).drop first

def cutFirst? (cs part : List Char) : Option (List Char × List Char) :=
  (index? cs part).map fun i => (cs.take i, cs.drop (i + part.length))

def cutLast? (cs part : List Char) : Option (List Char × List Char) :=
  (lastIndex? cs part).map fun i => (cs.take i, cs.drop (i + part.length))

/-- Pieces between the occurrences of `sep`; `skip` characters of an occurrence are still to be
passed over and `piece` is the current piece, reversed. -/
def splitLoop (sep : List Char) : (skip : Nat) → (piece : List Char) → List Char →
    List (List Char)
  | _, piece, [] => [piece.reverse]
  | skip + 1, piece, _ :: rest => splitLoop sep skip piece rest
  | 0, piece, c :: rest =>
    if sep.isPrefixOf (c :: rest) then piece.reverse :: splitLoop sep (sep.length - 1) [] rest
    else splitLoop sep 0 (c :: piece) rest

def split (cs sep : List Char) : List (List Char) := splitLoop sep 0 [] cs

def replaceLoop (old new : List Char) : (skip : Nat) → List Char → List Char
  | _, [] => []
  | skip + 1, _ :: rest => replaceLoop old new skip rest
  | 0, c :: rest =>
    if old.isPrefixOf (c :: rest) then new ++ replaceLoop old new (old.length - 1) rest
    else c :: replaceLoop old new 0 rest

/-- Every occurrence of `old`, from the left, becomes `new`; `old` must not be empty. -/
def replace (cs old new : List Char) : List Char := replaceLoop old new 0 cs

def join (sep : List Char) : List (List Char) → List Char
  | [] => []
  | [piece] => piece
  | piece :: rest => piece ++ sep ++ join sep rest

/-- The lines of a text, each with its end; `\r\n` is one end. -/
def linesLoop : (line : List Char) → List Char → List (List Char)
  | line, [] => if line.isEmpty then [] else [line.reverse]
  | line, '\r' :: '\n' :: rest => ('\n' :: '\r' :: line).reverse :: linesLoop [] rest
  | line, c :: rest =>
    if isLineEnd c then (c :: line).reverse :: linesLoop [] rest else linesLoop (c :: line) rest

def lines (cs : List Char) : List (List Char) := linesLoop [] cs

def indentWith (margin cs : List Char) : List Char :=
  (lines cs).flatMap fun line => if line.all isBlank then line else margin ++ line

end BindingStubs.Chars
