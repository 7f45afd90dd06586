import BindingStubs.Session
import BindingStubs.Xml.Reader

set_option autoImplicit false

/-! # References to classes -/

namespace BindingStubs.ClassReference

open Gen

def descriptionName (stem : String) : String :=
  match stem with
  | "Geom2dCurvePy" => "Curve2dPy"
  | "GeomSurface" => "GeometrySurface"
  | stem => stem

def pathList (paths : List Path) : String :=
  "[" ++ Text.join ", " (paths.map Path.described) ++ "]"

/-- The description with a given name; of several, the first whose path mentions the namespace, or
else the first. -/
def description? (stem namespace_ : String) : Gen (Option Path) := do
  let stem := descriptionName stem
  match (← read).descriptions.filter fun p => p.stem == stem with
  | [] => return none
  | [only] => return some only
  | first :: second :: rest =>
    let all := first :: second :: rest
    match all.find? fun p => Text.contains p.text namespace_ with
    | some p => return some p
    | none =>
      report .warning .stems ("There is more than one possible paths=" ++
        pathList (all.map fun p => p.relativeTo SourceTree.root))
      return some first

def descriptionPath (stem namespace_ : String) : Gen Path := do
  match ← description? stem namespace_ with
  | some p => return p
  | none => throw (.noFileForStem (descriptionName stem))

def readDescription (p : Path) : Gen Xml.Element := do
  let octets ← demand ((← read).tree.octets p)
  demand (Xml.read octets)

def visibleName (name : String) : String := if name == "Workbench" then "WorkbenchC" else name

def attributeOf (e : Xml.Element) (name : String) : Gen String :=
  match e.attribute? name with
  | some value => return value
  | none => throw .noSuchKey

/-- The class that an element describes. A name given for Python comes first, then the name under
which the class is registered, then its own name. -/
def ofElement (e : Xml.Element) : Gen String := do
  let given := (e.attribute? "PythonName").getD ""
  if !given.isEmpty then
    match Text.split given "." with
    | [_] => throw .unnamedExport
    | [namespace_, name] => return Naming.importName namespace_ ++ "." ++ name
    | _ => return given
  else
    let own ← attributeOf e "Name"
    let registered := match (← read).registry.name? own with
      | some full => if Text.contains full "." then Naming.className full else ""
      | none => ""
    let name := if registered.isEmpty then Text.dropEnd own "Py" else registered
    let namespace_ ← attributeOf e "Namespace"
    return Naming.importName namespace_ ++ "." ++ visibleName name

def viewClasses : List String :=
  ["MDIViewPy", "View3DInventorPy", "View3DInventorViewerPy", "AbstractSplitViewPy"]

def undescribed (stem namespace_ : String) : String :=
  if namespace_.isEmpty && stem == "SelectionFilterPy" then
    Naming.importName "Gui" ++ "." ++ Text.dropEnd stem "Py"
  else if viewClasses.contains stem then Naming.importName "Gui" ++ "." ++ stem
  else if stem == "SplitView3DInventor" || stem == "View3DInventor" then
    "FreeCADGui.AbstractSplitViewPy"
  else if namespace_.isEmpty then Text.dropEnd stem "Py"
  else Naming.importName namespace_ ++ "." ++ Text.dropEnd stem "Py"

/-- The class with a given name in a namespace. An export without content is refused. -/
def ofStem (stem namespace_ : String) : Gen String := do
  match ← description? stem namespace_ with
  | none => return undescribed stem namespace_
  | some p =>
    let root ← readDescription p
    match root.child? "PythonExport" with
    | some e => if e.children.isEmpty then throw .missingExport else ofElement e
    | none => throw .missingExport

def ofCppType (written : String) : Gen String := do
  let bare := Text.dropEnd (Text.dropEnd written "::Type") "::type_object("
  let (namespace_, name) ← demand (Naming.cutNamespace bare)
  ofStem name (namespace_.getD "")

def ofFather (e : Xml.Element) : Gen String := do
  let namespace_ ← attributeOf e "FatherNamespace"
  let father ← attributeOf e "Father"
  if father == "PyObjectBase" then return Naming.importName namespace_ ++ "." ++ father
  else ofStem father namespace_

end BindingStubs.ClassReference
