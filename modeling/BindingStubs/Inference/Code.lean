import BindingStubs.ClassReference
import BindingStubs.Format.Build
import BindingStubs.Inference.Shape
import BindingStubs.TypeExpr.Container

set_option autoImplicit false

/-!
# Code under inference

The body of a function with the class and the name it belongs to.
-/

namespace BindingStubs.Inference

open Gen

structure Code where
  body : List Char
  /-- The dotted name of the class that the function belongs to; empty for a plain function. -/
  owner : Option String := some ""
  function : String := ""

def Code.make (body owner function : String) : Code :=
  { body := body.toList, owner := some owner, function := function }

/-- Asks for the type of an expression, where only the body up to a place counts; a literal
question leaves variables out. -/
abbrev Ask := (expression : String) → (stop : Nat) → (literal : Bool) → Gen TypeExpr

/-- A pattern that holds text from the code, which may spoil it. -/
def patternOf (written : String) (flags : Pattern.Flags := {}) : Gen Pattern.Regex :=
  demand (Pattern.read flags written)

def Code.matches (c : Code) (r : Pattern.Regex) (start stop : Nat) : List Pattern.Match :=
  r.matchesIn c.body start stop

def captured (m : Pattern.Match) (index : Nat) : Gen String :=
  match m.group? index with
  | some s => return s
  | none => throw .wrongType

def piece (pieces : List String) (index : Nat) : Gen String :=
  match pieces[index]? with
  | some s => return s
  | none => throw .outOfRange

/-- The texts that a type contributes to a union; anything contributes nothing. -/
def contributions : TypeExpr → List String
  | .any => []
  | .text s => [s]
  | .union items imports => (TypeExpr.union items imports).printed

def caughtTypes (ask : Ask) (stop : Nat) : List Pattern.Match → Gen (List String)
  | [] => return []
  | m :: rest => do
    let found ← element (do ask (← captured m 1) stop false)
    return contributions found ++ (← caughtTypes ask stop rest)

/-- The type of an instance. The class of the code itself counts as such, and a class without a
module only if it differs from the text it was read off. -/
def instanceType (c : Code) (text differsFrom : String) : Gen TypeExpr := do
  let cppType :=
    Text.before (Text.dropStart (Text.dropStart text "Py::asObject(new ") "new ") "("
  let full ← ClassReference.ofCppType cppType
  let name := Naming.className full
  let some owner := c.owner | throw .noSuchAttribute
  if name == Naming.className owner then return .text owner
  else if name == "PropertyComplexGeoData" then
    return TypeExpr.unionOfTexts ["Mesh.MeshObject", "Part.Shape", "Points.PointKernel"]
  else if full == differsFrom then return .any
  else match Naming.moduleName? full with
    | none => return .any
    | some moduleName =>
      if moduleName.isEmpty then return .any
      else
        need moduleName
        return .text full

def literalClassType (c : Code) (s : String) : Gen TypeExpr :=
  instanceType c (if Text.endsWith s "Py" then s else s ++ "Py") s

def sceneNodeType (s : String) : Gen TypeExpr := do
  let call := Text.dropStart s "Base::Interpreter().createSWIGPointerObj"
  let arguments ← demand (Source.callArguments call none)
  let moduleName := Text.unquote (← piece arguments 0)
  let name := Text.unquote (← piece arguments 1)
  if !Text.startsWith moduleName "pivy" || Text.contains name "(" then return .any
  else
    return .text (moduleName ++ "." ++ Text.trim (Text.dropEnd (Text.dropStart name "_p_") "*"))

def widgetType (s : String) : Gen TypeExpr := do
  match ← demand (Source.callArguments s none) with
  | [_] => return .text "qtpy.QtWidgets.QWidget"
  | [_, written] =>
    let name := Text.unquote written
    return .text ("qtpy.QtWidgets." ++ (if Text.startsWith name "Q" then name else "QWidget"))
  | _ => throw .unexpectedWidgetCast

/-- The type of a built value: that of its format, or of its first value if the format says
nothing. -/
def builtType (ask : Ask) (s : String) (stop : Nat) : Gen TypeExpr := do
  let arguments ← demand (Source.callArguments s none)
  let type ← demand (Format.buildType (← read).sets (Text.unquote (← piece arguments 0)))
  if type != TypeExpr.anyText then return .text type
  else ask (Text.trim (← piece arguments 1)) stop true

def shownTypes (ask : Ask) (stop : Nat) : List String → Gen (List String)
  | [] => return []
  | s :: rest => do
    let found ← ask s stop false
    return found.shown :: (← shownTypes ask stop rest)

def packedType (ask : Ask) (s : String) (stop : Nat) : Gen TypeExpr := do
  let arguments ← demand (Source.callArguments s none)
  let texts ← shownTypes ask stop (arguments.drop 1)
  return .text ("tuple[" ++ Text.join ", " texts ++ "]")

end BindingStubs.Inference
