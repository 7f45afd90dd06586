import BindingStubs.Literal.Accepted
import BindingStubs.Pattern.Matcher
import BindingStubs.Signature.Basic
import BindingStubs.Source.Call

set_option autoImplicit false

/-!
# Signatures in documentation

Calls of a function that its documentation shows.
-/

namespace BindingStubs.Documentation

open Text

def wordChars : (inGap : Bool) → List Char → List Char
  | _, [] => []
  | inGap, c :: rest =>
    if isWord c then c :: wordChars false rest
    else if inGap then wordChars true rest
    else '_' :: wordChars true rest

structure NameSupply where
  number : Int
  taken : List String := []

def NameSupply.next (supply : NameSupply) : NameSupply := { supply with number := supply.number + 1 }

/-- A name from a written one: made up unless it starts with a letter, and no keyword. -/
def nameFor (number : Int) (written : String) : String :=
  let word := String.ofList (wordChars false written.toList)
  if !word.toList.head?.any isAsciiLetter then "arg" ++ toString number
  else if isKeyword word then word ++ "_"
  else word

def NameSupply.choose (supply : NameSupply) (written : String) : String × NameSupply :=
  let plain := nameFor supply.number written
  let name := if supply.taken.contains plain then plain ++ toString supply.number else plain
  (name, { supply.next with taken := name :: supply.taken })

/-- One argument of a documented call. `broken` holds the texts of defaults that look like values
but are none. -/
structure Argument where
  parameter : Except Fault Parameter
  broken : List String := []

inductive Written where
  | named (name : String) (default : Option DefaultValue) (broken : List String)
  | anyMore
  | malformed (fault : Fault)

/-- The text of a default as a default value; what is no value counts as `None`. -/
def writtenDefault (spelling : Option String) : Option DefaultValue :=
  (TypeHint.ofList? [spelling.getD "None"]).map .written

def readWritten (text : String) : Written :=
  if contains text "=" then
    match split text "=" with
    | [name, value] =>
      let found := Literal.accept (trim value)
      if found.endless then .malformed .tooDeep
      else .named (trim name) (writtenDefault found.spelling) found.broken
    | _ => .malformed .badValue
  else if text == "..." then .anyMore
  else .named text none []

/-- An argument without outer blanks. An empty list at its end is the same as no value. -/
def settled (raw : String) : String :=
  if endsWith (trim raw) "[]" then shorten (trim raw) 2 ++ "None" else trim raw

def bare (raw : String) : String := dropEnd (dropStart (settled raw) "[") "]"

def isBracketed (raw : String) : Bool := startsWith (settled raw) "[" && endsWith (settled raw) "]"

def hintOf (raw : String) : Option TypeHint :=
  if endsWith (trim raw) "[]" then TypeHint.ofList? ["list"] else none

/-- An argument and those after it, which start from the kind and the names that it leaves. -/
def argumentThen (kind : ParameterKind) (supply : NameSupply) (raw : String)
    (next : ParameterKind → NameSupply → List Argument) : Written → List Argument
  | .malformed fault => [{ parameter := .error fault }]
  | .anyMore => { parameter := .ok Parameter.rest } :: next .keyword supply
  | .named name default broken =>
    let kind := if isBracketed raw then .flexible else kind
    let default := if default.isNone && kind != .positional then writtenDefault none else default
    let kind := if default.isSome && kind == .positional then .flexible else kind
    { parameter := Parameter.make (supply.choose name).1 kind default (hintOf raw), broken } ::
      next kind (supply.choose name).2

def arguments : ParameterKind → NameSupply → List String → List Argument
  | _, _, [] => []
  | kind, supply, raw :: rest =>
    argumentThen kind supply raw (fun kind supply => arguments kind supply rest)
      (readWritten (bare raw))

def callArguments (inside : String) (firstNumber : Int) : List Argument :=
  if inside.isEmpty then []
  else arguments .positional { number := firstNumber } (Source.commaPieces inside)

/-- The inside of a call that starts at `start`; an open one ends with its line. -/
def insideOf (name doc : String) (start : Nat) : String :=
  let call := dropStart (dropStart (Source.callFrom doc start) name) "("
  if endsWith call ")" then dropEnd call ")" else before call "\n"

def callsOf (name doc : String) (firstNumber : Int) : Except Fault (List (List Argument)) := do
  let r ← Pattern.read {} (name ++ "\\((.*?)\\):?")
  return (r.allMatches doc).map fun m => callArguments (insideOf name doc m.start) firstNumber

def signatureOf (call : List Argument) : Except Fault Signature := do
  let rec go : List Argument → Except Fault (List Parameter)
    | [] => .ok []
    | a :: rest => do
      let p ← a.parameter
      return p :: (← go rest)
  Signature.ofParameters (← go call)

def signatures (name doc : String) (firstNumber : Int) : Except Fault (List Signature) := do
  let rec go : List (List Argument) → Except Fault (List Signature)
    | [] => .ok []
    | call :: rest => do
      let s ← signatureOf call
      return s :: (← go rest)
  go (← callsOf name doc firstNumber)

end BindingStubs.Documentation
