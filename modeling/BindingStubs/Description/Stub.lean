import BindingStubs.Description.Attribute
import BindingStubs.Description.Dynamic
import BindingStubs.Description.Method
import BindingStubs.Stub.Classes

set_option autoImplicit false

/-! # Stubs of described classes -/

namespace BindingStubs.Description

open Gen

/-- The father comes first; document groups are group extensions too. -/
def fathers (c : DescribedClass) : Gen (List String) := do
  let father ← ClassReference.ofFather c.element
  need (← demand (Naming.moduleName father))
  return father ::
    (if c.fullName == "FreeCAD.DocumentObjectGroup" then ["FreeCAD.GroupExtension"] else [])

def workbenchMembers : String :=
  "MenuText: str = ''\nToolTip: str = ''\nIcon: str = None  # path to the icon\n\n" ++
    "def Initialize(self):\n    raise NotImplementedError\n\n" ++
    "def Activated(self): ...\n\ndef Deactivated(self): ...\n\n" ++
    "def ContextMenu(self, recipient): ...\n\ndef reloadActive(self): ...\n\n" ++
    "def GetClassName(self):\n    return 'Gui::PythonWorkbench'\n\n"

def fixedProperty (name type : String) : Gen String :=
  Property.Definition.text { name := name, readType := type, writeType := type, readOnly := false }

def proxyProperty (type : String) : Gen String := do
  let text ← fixedProperty "Proxy" ("FreeCADTemplates.templates." ++ type)
  need "FreeCADTemplates.templates"
  return text

def fixedMembers (className : String) : Gen String :=
  match className with
  | "DocumentObject" => proxyProperty "ProxyPython"
  | "ViewProviderDocumentObject" => proxyProperty "ViewProviderPython"
  | "GroupExtension" => fixedProperty "Group" "list[DocumentObject]"
  | "WorkbenchC" => return workbenchMembers
  | _ => return ""

def named (elements : List Xml.Element) : Gen (List (String × Xml.Element)) :=
  elements.mapM fun e => do return (← ClassReference.attributeOf e "Name", e)

def inNameOrder (elements : List Xml.Element) : Gen (List Xml.Element) := do
  let entries ← named elements
  return (entries.mergeSort fun a b => Text.precedes a.1 b.1).map Prod.snd

def indentedTexts (write : Xml.Element → Gen String) : List Xml.Element → Gen (List String)
  | [] => return []
  | e :: rest => do
    let text ← write e
    return Text.indent text :: (← indentedTexts write rest)

def documentationText (c : DescribedClass) : Gen String := do
  let docs ← Stub.classDocs c.fullName c.element.documentation
  return if docs.isEmpty then "" else Text.indent (Documentation.docstring docs) ++ "\n"

def classText (c : DescribedClass) : Gen String := do
  let bases ← fathers c
  let docs ← documentationText c
  let init ← constructor c
  let fixed ← fixedMembers c.name
  let attributes ← indentedTexts (attributeText c)
    (← inNameOrder (c.element.childrenNamed "Attribute"))
  let properties ← dynamicProperties c
  let methods ← indentedTexts (describedMethod c)
    (← inNameOrder (c.element.childrenNamed "Methode"))
  let compared := if ← flag c.element "RichCompare" false then comparison else ""
  let calculated := if ← flag c.element "NumberProtocol" false then arithmetic c.name else ""
  return "class " ++ c.name ++ "(" ++ Text.join ", " bases ++ "):\n" ++ docs ++ Text.indent init ++
    Text.indent fixed ++ String.join attributes ++
    String.join ((Text.sorted properties).map Text.indent) ++ String.join methods ++
    Text.indent compared ++ Text.indent calculated

def addClassesOf (i : Implementation) (submodule : String) : List Xml.Element → Gen Unit
  | [] => return ()
  | e :: rest => do
    let fullName ← ClassReference.ofElement e
    let text ← classText { implementation := i, element := e, fullName }
    let moduleName ← demand (Naming.moduleName fullName)
    let target := if submodule.isEmpty then moduleName else moduleName ++ "." ++ submodule
    addToModule target (Stub.heading i.path ++ text ++ "\n")
    setImports OrderedSet.empty
    addClassesOf i submodule rest

def addDescription (submodule : String) (i : Implementation) : Gen Unit := do
  let root ← ClassReference.readDescription i.path
  addClassesOf i submodule (root.childrenNamed "PythonExport")

end BindingStubs.Description
