import BindingStubs.Description.Class
import BindingStubs.Method.Registered

set_option autoImplicit false

/-! # Described methods -/

namespace BindingStubs.Description

open Gen

/-- The names under which a method goes in code, in Python and in its documentation. -/
structure MethodNames where
  function : String
  cppClass : String := ""
  python : String
  documented : String

def firstParameter? (isStatic isClassMethod : Bool) : Option Parameter :=
  if isStatic then none else if isClassMethod then some Parameter.cls else some Parameter.self

def documentedSignatures (name : String) (e : Xml.Element) (firstNumber : Int) :
    Gen (List Signature) := do
  let doc := e.directDocumentation
  if doc.isEmpty then return [] else Signature.fromDocumentation name doc firstNumber

def demandAll : List (Except Fault Signature) → Gen (List Signature)
  | [] => return []
  | step :: rest => do
    let s ← demand step
    return s :: (← demandAll rest)

/-- The signatures of a method. Without any implementation only the first parameter is known. -/
def methodSignatures (c : DescribedClass) (names : MethodNames) (e : Xml.Element)
    (first : Option Parameter) : Gen (List Signature) := do
  if c.implementation.content.isEmpty then
    return [← demand (Signature.ofParameters first.toList)]
  let firstNumber : Int := first.toList.length
  let code ← c.codeSignatures names.function names.cppClass firstNumber
  let documented ← documentedSignatures names.documented e firstNumber
  demandAll (Signature.mergeSteps code documented first)

def method (c : DescribedClass) (names : MethodNames) (e : Xml.Element) : Gen String := do
  let isStatic ← flag e "Static" false
  let isClassMethod ← flag e "Class" false
  let signatures ← methodSignatures c names e (firstParameter? isStatic isClassMethod)
  MethodText.write c.path names.python (signatures.map Signature.text).eraseDups
    (e.documentation ++ Signature.exceptionsSentence signatures)
    { isClassMethod := isClassMethod, isStatic := isStatic }

def describedMethod (c : DescribedClass) (e : Xml.Element) : Gen String := do
  let name ← ClassReference.attributeOf e "Name"
  method c { function := name, python := name, documented := name } e

def documentedName (c : DescribedClass) : Gen String :=
  if c.name.isEmpty then ClassReference.attributeOf c.element "Name" else return c.name

/-- The constructor. A class whose maker is missing or returns nothing has none. -/
def constructor (c : DescribedClass) : Gen String := do
  let (made, _) ← apart (c.codeSignatures "PyMake" c.name 1)
  if made.all fun s => s.returns.isNone then return ""
  else
    let documented ← documentedName c
    method c { function := "PyInit", cppClass := c.name, python := "__init__", documented := documented }
      c.element

def emptyMethod (name : String) (arguments : List String) (result : Option String) : String :=
  "def " ++ name ++ "(" ++ Text.join ", " ("self" :: arguments) ++ ")" ++
    (match result with
      | some type => " -> " ++ type
      | none => "") ++ ": ...\n\n"

def reflectedMethod (name : String) (arguments : List String) (result : Option String) : String :=
  emptyMethod ("__" ++ name ++ "__") arguments result ++
    emptyMethod ("__r" ++ name ++ "__") arguments result

def comparison : String :=
  String.join (["__eq__", "__ne__", "__lt__", "__le__", "__ge__", "__gt__"].map fun name =>
    emptyMethod name ["other"] (some "bool"))

def arithmetic (className : String) : String :=
  let own := if className.isEmpty then none else some className
  String.join [
    reflectedMethod "add" ["other"] own,
    reflectedMethod "sub" ["other"] own,
    reflectedMethod "mul" ["other"] none,
    reflectedMethod "mod" ["other"] none,
    reflectedMethod "divmod" ["other"] none,
    reflectedMethod "pow" ["power", "modulo=None"] none,
    emptyMethod "__neg__" [] own,
    emptyMethod "__pos__" [] own,
    emptyMethod "__abs__" [] own,
    emptyMethod "__bool__" [] (some "bool"),
    emptyMethod "__invert__" [] none,
    reflectedMethod "lshift" ["other"] none,
    reflectedMethod "rshift" ["other"] none,
    reflectedMethod "and" ["other"] none,
    reflectedMethod "xor" ["other"] none,
    reflectedMethod "or" ["other"] none,
    emptyMethod "__int__" [] (some "int"),
    emptyMethod "__float__" [] (some "float"),
    reflectedMethod "truediv" ["other"] own]

end BindingStubs.Description
