import BindingStubs.Inference.Items
import BindingStubs.Literal.Accepted

set_option autoImplicit false

/-! # Types of variables and results -/

namespace BindingStubs.Inference

open Gen

/-- Declarations of a variable: a type, perhaps other variables, the name, and a value or
constructor arguments. -/
def declarationPattern (name : String) : String :=
  "(?P<directive>\\#)?(?>\\s*)(?P<type>[^\\d\\W][\\w:<>*\\s]*(?<![:\\s]))\\s*(?:\\b\\w+\\s*,\\s*)*\\b" ++
    name ++
    "\\b\\s*(?:(?:,\\s*\\w+\\s*)*|=\\s*(?P<value>[^;]*)|\\((?P<arguments>[^;]+)\\))?[;:]"

/-- The declared type: of a template its argument, without constness and pointer mark. -/
def declaredType? (written : String) : Option String :=
  if written == "return" || written == "else" then none
  else
    let inner :=
      if Text.contains written "<" && Text.contains written ">" then
        match Text.cutFirst? written "<" with
        | some (_, rest) => Text.before rest ">"
        | none => written
      else written
    let bare := Text.trim (Text.dropEnd (Text.trim (Text.dropStart inner "const")) "*")
    if bare.isEmpty then none else some bare

def vagueTypes : List String := ["auto", "PyObject", "Py::Object", "PyTypeObject", "PyObjectBase"]

structure Declaration where
  type : String
  value : String
  arguments : String
  start : Nat
  stop : Nat

def declaration? (r : Pattern.Regex) (m : Pattern.Match) : Option Declaration :=
  if !(m.group (r.named "directive")).isEmpty then none
  else (declaredType? (m.group (r.named "type"))).map fun type =>
    { type := type
      value := m.group (r.named "value")
      arguments := m.group (r.named "arguments")
      start := m.start
      stop := m.stop }

def lastDeclaration? (c : Code) (name : String) (stop : Nat) : Gen (Option Declaration) := do
  let r ← patternOf (declarationPattern name)
  return (c.matches r 0 stop).reverse.findSome? (declaration? r)

def typeOfDeclaration (ask : Ask) (d : Declaration) (stop : Nat) : Gen TypeExpr :=
  if vagueTypes.contains d.type then
    if !d.value.isEmpty then ask d.value stop true
    else if d.type != "auto" && !d.arguments.isEmpty then
      ask ((Source.commaPieces d.arguments).headD "") stop false
    else return .any
  else ask d.type stop true

def assignedType (ask : Ask) (c : Code) (name : String) (start stop : Nat) : Gen TypeExpr := do
  let r ← patternOf (name ++ "\\b\\s*=\\s*([^;]*);")
  let found := TypeExpr.unionOfTexts (← caughtTypes ask stop (c.matches r start stop))
  return if found.alternatives.isEmpty then .any else found

def orNone : TypeExpr → TypeExpr
  | .union items imports => (TypeExpr.union items imports).add (.text "None")
  | .text s => TypeExpr.unionOfTexts ["None", s]
  | .any => .text "None"

def variableType (ask : Ask) (c : Code) (name : String) (stop : Nat) : Gen TypeExpr := do
  if name == "this" then
    match c.owner with
    | some owner => return .text owner
    | none => throw .noOwner
  match ← lastDeclaration? c name stop with
  | none => ask name stop true
  | some d =>
    let declared ← typeOfDeclaration ask d stop
    let type ← if declared.isText "None" then do
        return orNone (← assignedType ask c name d.stop stop)
      else if declared.isAny then assignedType ask c name d.stop stop
      else pure declared
    match type with
    | .text s => withItems ask c s name d.start d.stop stop
    | type => return type

/-! ## Types of expressions

The type of an expression by its shape. Expressions may refer to one another without end, so the
depth of questions is bounded; a question beyond it is a fault. -/

def firstArgumentType (ask : Ask) (s : String) (stop : Nat) : Gen TypeExpr := do
  match ← demand (Source.callArguments s none) with
  | [] => throw .nothingLeft
  | first :: _ => ask first stop false

/-- The type of an expression, if deeper questions are answered by `ask`. -/
def step (ask : Ask) (c : Code) : Ask := fun expression stop literal => do
  let s := bareExpression expression
  match shape literal s with
  | .anything => return .any
  | .null => throw .nullResult
  | .known type => return .text type
  | .owner => return .text (c.owner.getD TypeExpr.noneText)
  | .like other => ask other stop false
  | .tupleOfArguments => tupleType ask c s 0 stop stop
  | .packedTuple => packedType ask s stop
  | .listLike other =>
    let found ← ask other stop false
    return .text ("list[" ++ found.shown ++ "]")
  | .sceneNode => sceneNodeType s
  | .widget => widgetType s
  | .instanceOf text => instanceType c text ""
  | .builtValue => builtType ask s stop
  | .firstArgument => firstArgumentType ask s stop
  | .className => literalClassType c s
  | .variableName => variableType ask c s stop
  | .unrecognised =>
    report .warning .returnTypes ("Unknown return variable: '" ++ s ++ "'")
    return .any

def deepest : Nat := 900

def typeWithin : (depth : Nat) → Code → Ask
  | 0, _ => fun _ _ _ => throw .tooDeep
  | depth + 1, c => step (typeWithin depth c) c

def expressionType (c : Code) : Ask := typeWithin deepest c

def returnPattern : Pattern.Regex := Pattern.fixed "return ([^;]+);"

def returnedTexts (ask : Ask) (m : Pattern.Match) : Gen (List String) :=
  tryCatch
    (do
      let type ← element (ask (m.group 1) m.stop false)
      return type.printed)
    fun f => match f with
      | .nullResult => return []
      | f => throw f

def allReturnedTexts (ask : Ask) : List Pattern.Match → Gen (List String)
  | [] => return []
  | m :: rest => do
    let found ← returnedTexts ask m
    return found ++ (← allReturnedTexts ask rest)

def returnTypeBy (ask : Ask) (c : Code) : Gen (Option TypeHint) := do
  let texts ← allReturnedTexts ask (c.matches returnPattern 0 c.body.length)
  match TypeExpr.unionOfTexts texts with
  | .union items imports =>
    let (shown, _, learned) := TypeExpr.walk (1 < items.length) items imports
    match TypeHint.ofList? shown with
    | none => return none
    | some hint =>
      needAll learned.toList
      return some hint
  | _ => return none

def returnType (c : Code) : Gen (Option TypeHint) := returnTypeBy (expressionType c) c

def returnText (c : Code) : Gen String := do
  match ← returnType c with
  | some hint => return hint.text
  | none => return "object"

def thrownPattern : Pattern.Regex :=
  Pattern.fixed "throw\\s+Py::(?P<name>\\w+)\\((?P<arguments>[^;]*)\\);"

def setErrorPattern : Pattern.Regex := Pattern.fixed "PyErr_SetString\\(([^;]+)\\);"

def namedException (written : String) : Gen String := do
  demand (ExceptionClass.pythonName (← read).exceptions written)

def thrownException? (m : Pattern.Match) : Gen (Option String) := do
  let name := m.group (thrownPattern.named "name")
  let arguments := m.group (thrownPattern.named "arguments")
  let first := if arguments.isEmpty then "" else (Source.commaPieces arguments).headD ""
  if name == "Exception" && !first.isEmpty then return some (← namedException first)
  else if (← demand (Literal.spelling? name)).isSome then return some name
  else
    report .error .exceptions ("Invalid exception value: " ++ name)
    return none

def collectThrown : NameSet → List Pattern.Match → Gen NameSet
  | found, [] => return found
  | found, m :: rest => do collectThrown (found.insertAll (← thrownException? m).toList) rest

def collectSet : NameSet → List Pattern.Match → Gen NameSet
  | found, [] => return found
  | found, m :: rest => do
    let name ← namedException ((Source.commaPieces (m.group 1)).headD "")
    collectSet (found.insert name) rest

def exceptions (c : Code) : Gen NameSet := do
  let thrown ← collectThrown OrderedSet.empty (c.matches thrownPattern 0 c.body.length)
  collectSet thrown (c.matches setErrorPattern 0 c.body.length)

end BindingStubs.Inference
