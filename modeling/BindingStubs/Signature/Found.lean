import BindingStubs.Documentation.Signatures
import BindingStubs.Format.Decode
import BindingStubs.Inference.Variable

set_option autoImplicit false

/-! # Signatures found in code and documentation -/

namespace BindingStubs.Signature

open Gen

def positionalPattern : Pattern.Regex := Pattern.fixed "PyArg_ParseTuple(?!\\w)\\s*\\("

def keywordPattern : Pattern.Regex := Pattern.fixed "PyArg_ParseTupleAndKeywords\\s*\\("

structure FunctionCode where
  body : String
  function : String
  owner : String
  path : Path
  /-- The number of the first argument that gets a made-up name. -/
  firstNumber : Int

def resultOf (f : FunctionCode) : Gen Signature := do
  let c := Inference.Code.make f.body f.owner f.function
  let returns ← Inference.returnType c
  let exceptions ← Inference.exceptions c
  demand (make [] returns exceptions true)

def parsedAt (f : FunctionCode) (style : Format.ParseStyle) (start : Nat) : Gen Signature := do
  let call ← demand (Format.ParseCall.make f.path f.body start style f.firstNumber)
  demand (ofParameters (← Format.parameters call))

def parsedAtAll (f : FunctionCode) (result : Signature) :
    List (Format.ParseStyle × Nat) → Gen (List Signature)
  | [] => return []
  | (style, start) :: rest => do
    let parsed ← parsedAt f style start
    let joined ← demand (result.change { parameters := some parsed.parameters, unknown := some false })
    return joined :: (← parsedAtAll f result rest)

def parsingCalls (body : String) : List (Format.ParseStyle × Nat) :=
  ((positionalPattern.allMatches body).map fun m => (Format.positionalStyle, m.start)) ++
    ((keywordPattern.allMatches body).map fun m => (Format.keywordStyle, m.start))

def fromCode (f : FunctionCode) : Gen (List Signature) := do
  let result ← resultOf f
  match ← parsedAtAll f result (parsingCalls f.body) with
  | [] => return [result]
  | parsed => return parsed

def documentedParameters : List Documentation.Argument → Gen (List Parameter)
  | [] => return []
  | a :: rest => do
    Literal.reportBroken a.broken
    let p ← demand a.parameter
    return p :: (← documentedParameters rest)

def documentedCalls : List (List Documentation.Argument) → Gen (List Signature)
  | [] => return []
  | call :: rest => do
    let s ← demand (ofParameters (← documentedParameters call))
    return s :: (← documentedCalls rest)

def fromDocumentation (name doc : String) (firstNumber : Int) : Gen (List Signature) := do
  documentedCalls (← demand (Documentation.callsOf name doc firstNumber))

end BindingStubs.Signature
