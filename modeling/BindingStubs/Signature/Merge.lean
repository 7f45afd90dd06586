import BindingStubs.Signature.Basic

set_option autoImplicit false

/-!
# Merged signatures

Signatures found in code are joined with those found in documentation.
-/

namespace BindingStubs.Signature

/-- The start of a name that was made up for want of a better one. -/
def madeUpName : String := "arg"

def isMadeUp (name : String) : Bool := Text.startsWith name madeUpName

def saysNothing (hint : Option TypeHint) : Bool :=
  match hint with
  | none => true
  | some a => a.isText "object"

def offered? (p : Parameter) : Option DefaultValue :=
  match p.default with
  | some d => if d.isNone then none else some d
  | none => none

def nameFrom (p doc : Parameter) : Except Fault Parameter :=
  if isMadeUp p.name && !isMadeUp doc.name then p.withName doc.name else .ok p

def defaultFrom (p doc : Parameter) : Except Fault Parameter :=
  match p.default, offered? doc with
  | some d, some e => if d.isNone then p.withDefault e else .ok p
  | _, _ => .ok p

def hintFrom (p doc : Parameter) : Except Fault Parameter :=
  if saysNothing p.hint && !saysNothing doc.hint then p.withHint doc.hint else .ok p

def joinParameter (code doc : Parameter) : Except Fault Parameter := do
  hintFrom (← defaultFrom (← nameFrom code doc) doc) doc

/-- Code parameters joined with documented ones; `none` if the two do not fit together. -/
def joinParameters : List Parameter → List Parameter → Except Fault (Option (List Parameter))
  | [], [] => .ok (some [])
  | [], _ :: _ => .ok none
  | c :: code, [] =>
    if c.default.isSome then do
      return (← joinParameters code []).map (c :: ·)
    else .ok none
  | c :: code, d :: doc => do
    let p ← joinParameter c d
    return (← joinParameters code doc).map (p :: ·)

/-- Documented names over code whose own parameters are unknown. From a documented `*args` on, the
code parameters stand first. -/
def overlay : List Parameter → List Parameter → List (Except Fault Parameter)
  | code, [] => code.map .ok
  | [], doc => doc.map .ok
  | c :: code, d :: doc =>
    if d.kind == .varPositional then (c :: code ++ d :: doc).map .ok
    else c.withNameAndDefault d.name ((offered? d).or c.default) :: overlay code doc

def joinStep (lead : List Parameter) (doc code : Signature) : Option (Except Fault Signature) :=
  match joinParameters code.parameters doc.parameters with
  | .ok none => none
  | .ok (some parameters) => some (code.withParameters (lead ++ parameters))
  | .error e => some (.error e)

/-- One documented signature with every code signature that fits it, or by itself. -/
def withDocumented (code : List Signature) (lead : List Parameter) (doc : Signature) :
    List (Except Fault Signature) :=
  let joined := code.filterMap (joinStep lead doc)
  if joined.isEmpty then [doc.withParameters (lead ++ doc.parameters)] else joined

def isEqualDefault : Option DefaultValue → Option DefaultValue → Bool
  | none, none => true
  | some (.literal a), some (.literal b) => a.isEqual b
  | some (.expression a), some (.expression b) => a == b
  | some (.literal a), some (.expression b) | some (.expression b), some (.literal a) =>
    a.isEqual (Literal.ofString b)
  | _, _ => false

/-- Hints are compared by where they come from, so two parameters are only equal without them. -/
def isEqualParameter (p q : Parameter) : Bool :=
  p.name == q.name && p.kind == q.kind && isEqualDefault p.default q.default &&
    p.hint.isNone && q.hint.isNone

def allEqualParameters : List Parameter → List Parameter → Bool
  | [], [] => true
  | p :: rest, q :: others => isEqualParameter p q && allEqualParameters rest others
  | _, _ => false

/-- Parameters that are passed by name only may stand in any order. -/
def isEqual (s t : Signature) : Bool :=
  let named (s : Signature) := s.parameters.filter fun p => p.kind == .keyword
  let others (s : Signature) := s.parameters.filter fun p => p.kind != .keyword
  s.returns.isNone && t.returns.isNone && allEqualParameters (others s) (others t) &&
    (named s).length == (named t).length &&
    (named s).all fun p => (named t).any (isEqualParameter p)

def fitsAny (docs : List Signature) (code : Signature) : Bool :=
  docs.any fun d => match joinParameters code.parameters d.parameters with
    | .ok (some _) => true
    | _ => false

/-- Whether a code signature, or one equal to it, fits some documented one. -/
def isUsed (code docs : List Signature) (c : Signature) : Bool :=
  fitsAny docs c || code.any fun d => fitsAny docs d && d.isEqual c

/-- Code signatures that fit documented ones, documented ones by themselves, and the code
signatures that are left. -/
def joinSteps (code docs : List Signature) (lead : List Parameter) : List (Except Fault Signature) :=
  docs.flatMap (withDocumented code lead) ++
    (code.filter fun c => !isUsed code docs c).map fun c => c.withParameters (lead ++ c.parameters)

def overlaySteps (code : Signature) (docs : List Signature) (lead : List Parameter) :
    List (Except Fault Signature) :=
  docs.map fun d => do
    code.withParameters (lead ++ (← Fault.collect (overlay code.parameters d.parameters)))

def orIncomplete (lead : List Parameter) (steps : List (Except Fault Signature)) :
    List (Except Fault Signature) :=
  if steps.isEmpty then [ofParameters lead, .error .mergeIncomplete] else steps

def mergeSteps (code docs : List Signature) (first : Option Parameter) :
    List (Except Fault Signature) :=
  match code, docs with
  | [], [] => []
  | [c], d :: docs =>
    if c.unknown then overlaySteps c (d :: docs) first.toList
    else orIncomplete first.toList (joinSteps [c] (d :: docs) first.toList)
  | code, docs => orIncomplete first.toList (joinSteps code docs first.toList)

def merge (code docs : List Signature) (first : Option Parameter) : List Signature × Option Fault :=
  Fault.untilFault (mergeSteps code docs first)

end BindingStubs.Signature
