import BindingStubs.Naming
import BindingStubs.Pattern.Matcher
import BindingStubs.Pattern.Reader
import BindingStubs.Source.Call
import BindingStubs.Text.Words

set_option autoImplicit false

/-! # Exception classes -/

namespace BindingStubs

structure ExceptionClass where
  written : String
  name : String
  /-- `none` for a base that belongs to the language itself. -/
  baseSpace : Option String
  baseName : String
  cppSpace : String
  cppName : String
  deriving DecidableEq, Repr

namespace ExceptionClass

def moduleName (e : ExceptionClass) : String := Naming.importName e.written

/-- The space that stands for the language itself. -/
def languageSpace : String := "__python__"

def baseSpaceText (e : ExceptionClass) : String := e.baseSpace.getD languageSpace

def described (e : ExceptionClass) : String :=
  e.written ++ "." ++ e.name ++ " [" ++ e.cppSpace ++ "." ++ e.cppName ++ "]"

def languageStart : String := "PyExc"

def ofCall (variableName : String) (arguments : List String) : Except Fault ExceptionClass := do
  let dotted := Text.unquote (arguments.headD "")
  let written ← Naming.moduleName dotted
  let base ← match arguments with
    | _ :: base :: _ => .ok base
    | _ => .error .outOfRange
  let (baseSpace, baseName) ← Naming.cutNamespace base
  let (cppSpace, cppName) ← Naming.cutNamespace variableName
  return {
    written := written
    name := Naming.className dotted
    baseSpace := match baseSpace with
      | some space => if space == languageSpace then none else some space
      | none => if Text.startsWith baseName languageStart then none else some written
    baseName := baseName
    cppSpace := cppSpace.getD written
    cppName := if cppName == "OCCError" then "PartExceptionOCCError" else cppName }

def callPattern : Pattern.Regex :=
  Pattern.fixed
    "(?P<name>(\\w+)(\\s*::\\s*\\w+)?)\\s*=\\s*PyErr_NewException\\((?P<arguments>[^)]*)\\);"

/-- The calls that make exceptions, each variable once: its name and the arguments. -/
def callsLoop : (seen : List String) → List Pattern.Match → List (String × List String)
  | _, [] => []
  | seen, m :: rest =>
    let name := m.group (callPattern.named "name")
    if seen.contains name then callsLoop seen rest
    else
      (name, (Source.commaPieces (m.group (callPattern.named "arguments"))).map Text.trim) ::
        callsLoop (name :: seen) rest

def foundIn (content : String) : List (Except Fault ExceptionClass) :=
  (callsLoop [] (callPattern.allMatches content)).map fun (name, arguments) => ofCall name arguments

def find (known : List ExceptionClass) (cppName cppSpace : String) :
    Except Fault ExceptionClass :=
  match known.find? fun e => e.cppName == cppName && e.cppSpace == cppSpace with
  | some e => .ok e
  | none => .error (.noException cppName cppSpace)

def statement (known : List ExceptionClass) (e : ExceptionClass) :
    Except Fault (String × Option String) := do
  let (base, needed) ← match e.baseSpace with
    | none => pure (Text.dropStart e.baseName "PyExc_", none)
    | some space =>
      let found ← find known e.baseName space
      pure (found.moduleName ++ "." ++ found.name, some found.moduleName)
  return ("class " ++ e.name ++ "(" ++ base ++ "):\n" ++ Text.indent "pass" ++ "\n", needed)

def pythonName (known : List ExceptionClass) (written : String) : Except Fault String := do
  let (_, cppName) ← Naming.cutNamespace written
  match known.find? fun e => e.cppName == cppName with
  | some e => return (if e.written == "Base" then "FreeCAD.Base" else e.written) ++ "." ++ e.name
  | none =>
    if Text.startsWith written "PyExc_" then return Text.dropStart written "PyExc_"
    else if Text.contains written "getPyExceptionType()" then return "Exception"
    else throw (.unknownException written)

end ExceptionClass

end BindingStubs
