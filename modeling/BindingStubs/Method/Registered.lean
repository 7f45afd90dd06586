import BindingStubs.Documentation.Prepared
import BindingStubs.Implementation
import BindingStubs.Signature.Merge
import BindingStubs.Template.Basic

set_option autoImplicit false

/-! # Registered methods -/

namespace BindingStubs

inductive MethodForm where
  | called
  | tabled
  deriving DecidableEq, Repr

structure Method where
  form : MethodForm
  /-- The registered arguments without their quotes. -/
  arguments : List String
  name : String
  cppClass : String
  function : String
  doc : Option String := none
  flags : Option String := none
  signature : Option Signature := none

namespace Method

def pointerPattern : Pattern.Regex :=
  Pattern.fixed "(?:\\w+::)*?(?:(?P<class>\\w+)::)?\\b(?P<function>\\w+)\\b\\W*$"

def pointer (written : String) : Except Fault (String × String) :=
  match pointerPattern.search written with
  | none => .error .notAPointer
  | some m =>
    .ok (m.group (pointerPattern.named "class"), m.group (pointerPattern.named "function"))

def docText (written : String) : String :=
  Text.replace (String.ofList (Documentation.joinLiterals written.toList)) "\\n" "\n"

/-- The method with given registered arguments; a third one or more ends with documentation. -/
def make (form : MethodForm) (written : List String) : Except Fault Method := do
  let arguments := written.map Text.unquote
  match arguments with
  | name :: target :: rest =>
    let (cppClass, function) ← pointer target
    let doc := rest.getLast?.map docText
    match form, rest with
    | .called, _ => return { form, arguments, name, cppClass, function, doc }
    | .tabled, flags :: _ =>
      return { form, arguments, name, cppClass, function, doc, flags := some flags }
    | .tabled, [] => throw .outOfRange
  | _ => throw .outOfRange

def withSignature (m : Method) (s : Signature) : Except Fault Method := do
  return { ← make m.form m.arguments with signature := some s }

def signed (m : Method) : Except Fault Signature :=
  match m.signature with
  | some s => .ok s
  | none => .error .noSignature

def insert (m : Method) (p : Parameter) : Except Fault Method := do
  let s ← m.signed
  return { m with signature := some (← s.withParameters (p :: s.parameters)) }

def described (m : Method) : String := m.cppClass ++ "::" ++ m.function

def text (m : Method) : Except Fault String := do return (← m.signed).text

end Method

end BindingStubs

namespace BindingStubs.MethodText

open Gen

/-- The result that a method name fixes; that of `activeDocument` hangs on the place of the file. -/
def forcedReturn? (path : Path) (name : String) : Gen (Option String) := do
  if name == "activeDocument" then
    if path.parts.contains "App" then return some "FreeCAD.Document"
    else if path.parts.contains "Gui" then return some "FreeCADGui.Document"
    else
      report .warning .methods ("Unexpected function type in file " ++ path.text)
      return none
  else if name == "getParentGroup" then return some "FreeCAD.DocumentObjectGroup | None"
  else return none

def arrow : String := " ->"

def withForced (forced : Option String) (signature : String) : String :=
  match forced with
  | none => signature
  | some type =>
    ((Text.cutLast? signature arrow).map Prod.fst).getD signature ++ arrow ++ " " ++ type

structure Options where
  isClassMethod : Bool := false
  isStatic : Bool := false
  /-- Empty lines after each definition. -/
  spacing : Nat := 1

def decorators (o : Options) (overloaded : Bool) : String :=
  (if o.isStatic then "@staticmethod\n" else "") ++
    (if o.isClassMethod then "@classmethod\n" else "") ++
    (if overloaded then "@typing.overload\n" else "")

/-- The template of definitions. A name is part of it, so that braces in a name make fields too. -/
def template (front name : String) (spacing : Nat) : String :=
  front ++ "def " ++ name ++ "\x7bsignature\x7d:\x7bdocs\x7d" ++
    String.ofList (List.replicate spacing '\n')

def definitions (template docs : String) : List String → Except Fault String
  | [] => .ok ""
  | [last] => Template.fill [("signature", last), ("docs", Documentation.bodyOrEllipsis docs)] template
  | s :: rest => do
    let first ← Template.fill [("signature", s), ("docs", " ...\n")] template
    return first ++ (← definitions template docs rest)

def write (path : Path) (name : String) (signatures : List String) (docs : String) (o : Options) :
    Gen String := do
  if signatures.isEmpty then return ""
  let overloaded := 1 < signatures.length
  if overloaded then need "typing"
  let forced ← forcedReturn? path name
  demand (definitions (template (decorators o overloaded) name o.spacing) docs
    (signatures.map (withForced forced)))

end BindingStubs.MethodText

namespace BindingStubs.Method

open Gen

def signEach (m : Method) : List (Except Fault Signature) → Gen (List Method)
  | [] => return []
  | step :: rest => do
    let s ← demand step
    let signed ← demand (m.withSignature s)
    return signed :: (← signEach m rest)

def documentedSignatures (m : Method) : Gen (List Signature) :=
  match m.doc with
  | none => return []
  | some doc => Signature.fromDocumentation m.name doc 0

def resolve (i : Implementation) (owner : String) (firstNumber : Int) (m : Method) :
    Gen (List Method) := do
  let documented ← m.documentedSignatures
  let code ← i.signatures m.function m.cppClass owner firstNumber
  let signed ← m.signEach (Signature.mergeSteps code documented none)
  if signed.isEmpty then
    report .debug .cppMethods ("Not found args for method=" ++ m.described ++
      " self.baseGenFilePath=" ++ i.path.described)
    let body ← i.functionBody? m.function m.cppClass
    report .code .cppMethods (body.getD "None")
  return signed

def resolveAll (i : Implementation) (owner : String) (form : MethodForm) (firstNumber : Int) :
    List (List String) → Gen (List Method)
  | [] => return []
  | written :: rest => do
    let m ← demand (make form written)
    let signed ← m.resolve i owner firstNumber
    return signed ++ (← resolveAll i owner form firstNumber rest)

def registrars : List String := ["add_noargs_method", "add_varargs_method", "add_keyword_method"]

def registeringCalls (content : String) : List (List String) :=
  registrars.flatMap fun name =>
    ((Pattern.fixed name).allMatches content).map fun m => Source.argumentsOf content.toList m.start

def registeredIn (i : Implementation) (owner content : String) : Gen (List Method) :=
  resolveAll i owner .called 1 (registeringCalls content)

def groupByName (methods : List Method) : List (String × List Method) :=
  (methods.map Method.name).eraseDups.map fun name =>
    (name, methods.filter fun m => m.name == name)

def insertAll (first : Option Parameter) : List Method → Gen (List Method)
  | [] => return []
  | m :: rest => do
    let inserted ← match first with
      | some p => demand (m.insert p)
      | none => pure m
    return inserted :: (← insertAll first rest)

def groupDocs (methods : List Method) (signatures : List Signature) : String :=
  ((methods.findSome? Method.doc).getD "") ++ Signature.exceptionsSentence signatures

def groupText (path : Path) (first : Option Parameter) (spacing : Nat) (name : String)
    (methods : List Method) : Gen String := do
  let methods ← insertAll first methods
  let signatures := methods.filterMap Method.signature
  MethodText.write path name (signatures.map Signature.text).eraseDups
    (groupDocs methods signatures) { spacing := spacing }

def groupTexts (path : Path) (first : Option Parameter) (spacing : Nat) :
    List (String × List Method) → Gen (List String)
  | [] => return []
  | (name, methods) :: rest => do
    let text ← groupText path first spacing name methods
    return text :: (← groupTexts path first spacing rest)

def texts (path : Path) (first : Option Parameter) (spacing : Nat) (methods : List Method) :
    Gen (List String) :=
  groupTexts path first spacing (groupByName methods)

end BindingStubs.Method
