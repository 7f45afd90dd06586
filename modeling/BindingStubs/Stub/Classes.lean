import BindingStubs.ClassSection
import BindingStubs.Method.Registered

set_option autoImplicit false

/-! # Stubs of classes in C++ -/

namespace BindingStubs.Stub

open Gen

def heading (path : Path) : String := "# " ++ path.name ++ "\n"

def implementation? (path : Path) : Gen (Option Implementation) := do
  startFile
  match ← outcome (Implementation.load path) with
  | .ok i => return some i
  | .error .noSuchFile => return none
  | .error .malformedXml => return none
  | .error f => throw f

def baseFiles : List String := ["Sequencer.cpp", "GeometryPyCXX.cpp"]

def addPart (path : Path) (moduleName text : String) : Gen Unit := do
  if !(Text.trimEnd text).isEmpty then
    let target := if baseFiles.contains path.name then "FreeCAD.Base" else moduleName
    addToModule target (heading path ++ text)

def initPattern : Pattern.Regex := Pattern.fixed "::init_type\\([^\x7b;]*\x7b"

def classNamePattern : Pattern.Regex :=
  Pattern.fixed "behaviors\\(\\)\\.name\\(\\s*\"([\\w.]+)\"\\s*\\);"

def classDocPattern : Pattern.Regex :=
  Pattern.fixed "behaviors\\(\\).doc\\(\"((?:[^\"\\\\]|\\\\.|\"\\s*\")+)\"\\);"

def bindingSuffix : String := "Py"

def isReadFault : Fault → Bool
  | .noSuchFile | .isDirectory | .notADirectory => true
  | _ => false

def header? (path : Path) : Gen (Option String) := do
  match (← read).tree.read path with
  | .ok content => return some content
  | .error f => if isReadFault f then return none else throw f

def twinHeader? (path : Path) : Gen (Option String) := do
  let stem := path.stem
  if !Text.endsWith stem bindingSuffix then return none
  match ← header? ((path.withStem (Text.dropEnd stem bindingSuffix)).withSuffix ".h") with
  | some content => return some content
  | none =>
    let own := (path.withStem stem).withSuffix ".h"
    match ← header? own with
    | some content => return some content
    | none =>
      report .error .cppClasses ("Cannot read " ++ own.text)
      return none

def signalTexts (className : String) : List String → Gen (List String)
  | [] => return []
  | declaration :: rest => do
    let signal ← Signal.ofDeclaration className declaration
    let text ← signal.text
    return (text ++ "\n") :: (← signalTexts className rest)

def signals (path : Path) (className : String) : Gen String := do
  if !Text.endsWith className bindingSuffix then return ""
  let wrapped := Text.dropEnd className bindingSuffix
  match ← twinHeader? path with
  | none => return ""
  | some content =>
    if content.isEmpty then return ""
    let sections ← demand (ClassSection.ofClass wrapped content)
    let declarations :=
      (sections.filter fun s => s.kind == .signals).flatMap ClassSection.declarations
    match ← signalTexts wrapped declarations with
    | [] => return ""
    | texts => return String.join texts ++ "\n"

def inheritancePattern (className : String) : String :=
  "class\\s+(?:\\w+\\s+)?" ++ className ++ "\\s*:\\s*(?P<inherited>[^\x7b]*\x7b)"

def basePattern : Pattern.Regex :=
  Pattern.fixed ("(?:public|protected|private)\\s+(?P<base>.+?)\\s*" ++
    "(?:\x7b|,\\s*(?:public|protected|private))")

def pythonBase? (base : String) : Gen (Option String) := do
  let name ← if base == "QMainWindow" then pure (some "qtpy.QtWidgets.QMainWindow")
    else if Text.startsWith base "Q" then throw .unknownQtClass
    else if Text.endsWith base bindingSuffix then some <$> ClassReference.ofCppType base
    else pure none
  match name.bind Naming.moduleName? with
  | some moduleName => if !moduleName.isEmpty then need moduleName
  | none => pure ()
  return name

def pythonBases : List Pattern.Match → Gen (List String)
  | [] => return []
  | m :: rest => do
    let found ← pythonBase? (Text.trim (m.group (basePattern.named "base")))
    return (found.filter fun name => !name.isEmpty).toList ++ (← pythonBases rest)

def baseClasses (path : Path) (className : String) : Gen String := do
  if !Text.endsWith className bindingSuffix then return ""
  match ← twinHeader? path with
  | none => return ""
  | some content =>
    if content.isEmpty then return ""
    let r ← demand (Pattern.read {} (inheritancePattern (Text.dropEnd className bindingSuffix)))
    match r.search content with
    | none => return ""
    | some m =>
      match ← pythonBases (basePattern.allMatches (m.group (r.named "inherited"))) with
      | [] => return ""
      | bases => return "(" ++ Text.join ", " bases ++ ")"

def importableNote : String := "This class can be imported.\n"

def classDocs (owner written : String) : Gen String := do
  return (if (← read).registry.isImportable owner then importableNote else "") ++ written

def classAt (moduleName : String) (i : Implementation) (setUp className : String) :
    Gen String := do
  let owner := moduleName ++ "." ++ className
  let signalText ← signals i.path className
  let methods ← Method.registeredIn i owner setUp
  let methodText := String.join (← Method.texts i.path (some Parameter.self) 1 methods)
  let body := signalText ++ methodText
  let content := Text.indent (if body.isEmpty then "pass" else body)
  let written := ((classDocPattern.search setUp).map fun m => m.group 1).getD ""
  let docs ← classDocs owner written
  let bases ← baseClasses i.path className
  return "class " ++ className ++ bases ++ ":\n" ++ Text.indent (Documentation.docstring docs) ++
    "\n" ++ content ++ "\n"

def classesAt (moduleName : String) (i : Implementation) : List Pattern.Match → Gen (List String)
  | [] => return []
  | m :: rest => do
    let setUp := Source.bodyFrom i.content m.start
    match classNamePattern.search setUp with
    | none =>
      report .debug .cppClasses ("Cannot find function name in " ++ i.path.text)
      classesAt moduleName i rest
    | some found =>
      let text ← classAt moduleName i setUp (Text.replace (found.group 1) "." "_")
      return text :: (← classesAt moduleName i rest)

def addClasses (moduleName : String) (i : Implementation) : Gen Unit := do
  addPart i.path moduleName (String.join (← classesAt moduleName i (initPattern.allMatches i.content)))

end BindingStubs.Stub
