import BindingStubs.Stub.Directory
import BindingStubs.Stub.Imports
import BindingStubs.Stub.Units
import BindingStubs.TypeTable.Basic

set_option autoImplicit false

/-! # Stubs of a whole source tree -/

namespace BindingStubs.Stub

open Gen

def addLines (key : String) (lines names : List String) : Gen Unit :=
  alterModule key fun store m =>
    (lines.foldl (fun store line => store.addText m line) store).addImports m names

def applicationKey : String := "FreeCAD"

def interfaceKey : String := "FreeCADGui"

def baseClassText : String := "class PyObjectBase(object): ...\n\n\n"

def applicationText : String := Text.join "\n" [
  "",
  "App = FreeCAD",
  "Log = FreeCAD.Console.PrintLog",
  "Msg = FreeCAD.Console.PrintMessage",
  "Err = FreeCAD.Console.PrintError",
  "Wrn = FreeCAD.Console.PrintWarning",
  "# be careful with following variables -",
  "# some of them are set in FreeCADGui (GuiUp after InitApplications),",
  "# so may not exist until FreeCADGuiInit is initialized - use `getattr`"]

def addApplication : Gen Unit := do
  addLines applicationKey [baseClassText] []
  addDirectory (SourceTree.root.join "Base") applicationKey "Base"
  addDirectory (SourceTree.root.join "App") applicationKey ""
  addLines applicationKey
    [applicationText, "GuiUp: typing.Literal[0, 1]", "Gui = FreeCADGui",
      "ActiveDocument: FreeCAD.Document | None"]
    ["typing", "FreeCADGui", "FreeCAD.Console", "FreeCAD.Qt as Qt", "FreeCAD.Units as Units",
      "FreeCAD.Base", "from FreeCAD.Base import *"]

def addInterface : Gen Unit := do
  addDirectory (SourceTree.root.join "Gui") interfaceKey ""
  addDirectory (SourceTree.root.join "Main") interfaceKey ""
  addLines interfaceKey
    ["Workbench = FreeCADGui.PythonWorkbench  # noqa",
      "ActiveDocument: FreeCADGui.Document | None",
      "Control = ControlClass()  # hack to show this module in current module hints"]
    ["FreeCADGui.Selection", "from FreeCADGui.TaskDialogPython import Control as ControlClass"]

def skippedWorkbenches : List String := ["Test"]

def addWorkbench (directory : Path) : Gen Unit := do
  if !skippedWorkbenches.contains directory.name then
    let moduleName := Naming.importName directory.name
    addDirectory (directory.join "App") moduleName ""
    addDirectory (directory.join "Gui") moduleName ""

def addWorkbenches : List Path → Gen Unit
  | [] => return ()
  | directory :: rest => do
    addWorkbench directory
    addWorkbenches rest

def addUnits : Gen Unit :=
  addLines "FreeCAD.Units" ["Unit = Unit", "Quantity = Quantity", unitConstants]
    ["from FreeCAD.Base import Unit, Quantity"]

def addAll : Gen Unit := do
  addApplication
  addInterface
  addWorkbenches (← demand ((← read).tree.entries (SourceTree.root.join "Mod")))
  addUnits

def markedName (name : String) : String := Naming.canonical name ++ "-stubs"

def topDirectories (fs : StubFiles) : List String :=
  Text.sorted (fs.files.filterMap fun entry => match entry.1 with
    | top :: _ :: _ => some top
    | _ => none).eraseDups

def moveTop (old new : String) (fs : StubFiles) : StubFiles :=
  { fs with files := fs.files.map fun entry => match entry.1 with
    | top :: name :: rest => (if top == old then new :: name :: rest else entry.1, entry.2)
    | path => (path, entry.2) }

/-- Marks top level directories one after another, up to one whose marked name is taken. -/
def markTops : List String → StubFiles → StubFiles × Option Fault
  | [], fs => (fs, none)
  | name :: rest, fs =>
    if fs.hasDirectory [markedName name] then (fs, some .directoryTaken)
    else markTops rest (moveTop name (markedName name) fs)

def typeTablePath : List String := ["FreeCADTemplates", "type_consts.py"]

/-- The files of all modules of a store, with the type table beside them. A fault leaves the files
that are there already. -/
def layOut (modules : ModuleStore) (types : TypeTable) : StubFiles × Option Fault :=
  let start : StubFiles := ({} : StubFiles).touch [StubModule.initialFile]
  let saved := ((modules.childrenAsPackages ModuleStore.root).tree ModuleStore.root).save start
  match markTops (topDirectories saved) saved with
  | (marked, none) => (marked.write typeTablePath types.text, none)
  | (marked, some f) => (marked, some f)

def whole : Gen (StubFiles × Option Fault) := do
  let types ← demand (TypeTable.ofTree (← read).tree)
  addAll
  return layOut (← get).modules types

end BindingStubs.Stub

namespace BindingStubs

structure Generation where
  files : StubFiles := {}
  /-- Oldest record first. -/
  log : List LogRecord := []
  fault : Option Fault := none

namespace Generation

def finished : LogRecord :=
  { level := .info, reporter := .whole, text := "freecad_stub_gen finished successfully" }

def ofProject (project : Project) : Generation :=
  match Stub.whole.run project {} with
  | (.ok (files, none), session) => { files, log := session.log.reverse ++ [finished] }
  | (.ok (files, some f), session) => { files, log := session.log.reverse, fault := some f }
  | (.error f, session) => { log := session.log.reverse, fault := some f }

end Generation

end BindingStubs
