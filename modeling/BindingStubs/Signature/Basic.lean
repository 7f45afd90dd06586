import BindingStubs.Signature.Parameter

set_option autoImplicit false

/-!
# Signatures

Parameters in a legal order, what is returned, and which exceptions are raised.
-/

namespace BindingStubs

structure Signature where
  parameters : List Parameter := []
  returns : Option TypeHint := none
  exceptions : NameSet := OrderedSet.empty
  /-- The parameters could not be told from the code. -/
  unknown : Bool := false

namespace Signature

/-- A leading `self` is flexible if it stands alone or before a flexible parameter. -/
def adjustSelf : List Parameter → List Parameter
  | [p] =>
    if p.name == "self" && p.kind == .positional then [{ p with kind := .flexible }] else [p]
  | p :: q :: rest =>
    if p.name == "self" && p.kind == .positional && q.kind == .flexible then
      { p with kind := .flexible } :: q :: rest
    else p :: q :: rest
  | [] => []

def isPositional (kind : ParameterKind) : Bool := kind == .positional || kind == .flexible

/-- Whether parameters may follow ones of rank `top`, with the names `seen`. -/
def legalFrom : (top : Nat) → (defaulted : Bool) → (seen : List String) → List Parameter → Bool
  | _, _, _, [] => true
  | top, defaulted, seen, p :: rest =>
    top ≤ p.kind.rank &&
    !(isPositional p.kind && p.default.isNone && defaulted) &&
    !seen.contains p.name &&
    legalFrom p.kind.rank (defaulted || (isPositional p.kind && p.default.isSome)) (p.name :: seen) rest

def isLegal (parameters : List Parameter) : Bool := legalFrom 0 false [] parameters

def refusedText (parameters : List Parameter) : String :=
  "Cannot create signature with provided parameters:\n" ++
    Text.join "\n" (parameters.map fun p => Text.indent p.described)

def make (parameters : List Parameter) (returns : Option TypeHint) (exceptions : NameSet)
    (unknown : Bool) : Except Fault Signature :=
  let parameters := adjustSelf parameters
  if isLegal parameters then .ok { parameters, returns, exceptions, unknown }
  else .error (.signatureRefused (refusedText parameters))

def ofParameters (parameters : List Parameter) : Except Fault Signature :=
  make parameters none OrderedSet.empty false

/-- The parts of a signature to be changed; an absent part stays. -/
structure Change where
  parameters : Option (List Parameter) := none
  returns : Option TypeHint := none
  exceptions : Option NameSet := none
  unknown : Option Bool := none

def change (s : Signature) (c : Change) : Except Fault Signature :=
  make (c.parameters.getD s.parameters) (c.returns.or s.returns)
    (c.exceptions.getD s.exceptions) (c.unknown.getD s.unknown)

def withParameters (s : Signature) (parameters : List Parameter) : Except Fault Signature :=
  s.change { parameters := some parameters }

/-- The written parameters with the marks that divide the kinds. `positional` tells that
positional-only parameters are still to be closed, `starred` that keyword-only ones need no mark. -/
def markedFrom : (positional starred : Bool) → List Parameter → List String
  | positional, _, [] => if positional then ["/"] else []
  | positional, starred, p :: rest =>
    match p.kind with
    | .positional => p.text :: markedFrom true starred rest
    | .varPositional => (if positional then ["/"] else []) ++ p.text :: markedFrom false true rest
    | .keyword =>
      (if positional then ["/"] else []) ++ (if starred then [] else ["*"]) ++
        p.text :: markedFrom false true rest
    | _ => (if positional then ["/"] else []) ++ p.text :: markedFrom false starred rest

def text (s : Signature) : String :=
  "(" ++ Text.join ", " (markedFrom false false s.parameters) ++ ")" ++
    (match s.returns with
      | some a => " -> " ++ a.text
      | none => "")

def exceptionsSentence (signatures : List Signature) : String :=
  let all := signatures.foldl (fun found s => found.union s.exceptions) (OrderedSet.empty : NameSet)
  if all.isEmpty then ""
  else "\nPossible exceptions: (" ++ Text.join ", " all.toList ++ ")."

end Signature

end BindingStubs
