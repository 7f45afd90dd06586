import BindingStubs.Description.Class
import BindingStubs.Property.Text

set_option autoImplicit false

/-! # Described attributes -/

namespace BindingStubs.Description

open Gen

def attributeTypes : List (String × String) := [
  ("Boolean", "bool"), ("Dict", "dict"), ("Float", "float"), ("Int", "int"), ("List", "list"),
  ("Long", "int"), ("Object", "object"), ("Sequence", "typing.Sequence"), ("String", "str"),
  ("Tuple", "tuple"), ("Vector", "FreeCAD.Vector")]

def describedType (e : Xml.Element) : Gen String := do
  match e.child? "Parameter" with
  | none => throw .noAttributeType
  | some parameter =>
    let written ← ClassReference.attributeOf parameter "Type"
    match Naming.find? attributeTypes written with
    | none => throw .noSuchKey
    | some type =>
      needAll (Naming.moduleName? type).toList
      return type

def listAttributes : List String := ["InList", "InListRecursive", "OutList", "OutListRecursive"]

def stateType : String :=
  "list[typing.Literal[\"Touched\", \"Invalid\", \"Recompute\", \"Recompute2\", \"Restore\", " ++
    "\"Expanded\", \"Partial\", \"Importing\", \"Up-to-date\"]]"

def fixedType? (className name : String) (isGui : Bool) : Option String :=
  if className == "DocumentObject" && name == "ViewObject" then
    some "FreeCADGui.ViewProviderDocumentObject | None"
  else if className == "DocumentObject" && name == "Parents" then
    some "list[tuple[FreeCAD.DocumentObject, str]]"
  else if className == "DocumentObject" && name == "Document" then some "FreeCAD.Document"
  else if className == "DocumentObject" && listAttributes.contains name then
    some "list[FreeCAD.DocumentObject]"
  else if className == "DocumentObject" && name == "State" then some stateType
  else if className == "Document" && name == "Document" then
    some (if isGui then "FreeCAD.Document" else "FreeCADGui.Document")
  else if name == "Document" then
    some (if isGui then "FreeCADGui.Document" else "FreeCAD.Document")
  else if className == "Document" && name == "ActiveView" then
    some "FreeCADGui.MDIViewPy | FreeCADGui.View3DInventorPy | None"
  else if name == "Q" then some "tuple[float, float, float, float]"
  else none

def openTypes : List String := ["dict", "list", "tuple", "typing.Sequence"]

/-- Of the described type and the one found in code, the one that says more. A contradiction is
reported and the description wins. -/
def refined (described found : String) : Gen String := do
  if described == "object" then return found
  else if described == found then return found
  else if found == "object" then return described
  else if openTypes.contains described then
    if Text.startsWith found described || Text.endsWith found "Dict" then return found
    else
      report .warning .xmlAttributes ("Type from code does not match type from xml (cannot extend): " ++
        "pythonType=" ++ Text.quoted described ++ ", extendedType=" ++ Text.quoted found)
      return described
  else
    report .warning .xmlAttributes ("Type from code does not match type from xml:pythonType=" ++
      Text.quoted described ++ ", extendedType=" ++ Text.quoted found ++ ", self._cFunctionName=" ++
      Text.quoted (← get).recollection.lastFunction)
    return described

def getterType (c : DescribedClass) (name : String) : Gen String := do
  let function := "get" ++ name
  let cppClass ← ClassReference.attributeOf c.element "Name"
  match ← c.functionBody? function cppClass with
  | none => throw .noAttributeBody
  | some body => Inference.returnText (.make body c.fullName function)

def attributeText (c : DescribedClass) (e : Xml.Element) : Gen String := do
  let name ← ClassReference.attributeOf e "Name"
  let readOnly ← flag e "ReadOnly" true
  let described ← describedType e
  let isGui := Text.contains c.path.text "Gui"
  let type := (fixedType? c.name name isGui).getD described
  if Text.contains type "typing" then need "typing"
  let readType ← refined type (← getterType c name)
  Property.Definition.text
    { name := name
      readType := readType
      writeType := if !readOnly && type == "object" then readType else type
      docs := e.documentation
      readOnly := readOnly }

end BindingStubs.Description
