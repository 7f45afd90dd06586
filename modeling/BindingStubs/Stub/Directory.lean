import BindingStubs.Description.Stub

set_option autoImplicit false

/-!
# Stubs of directories

All that the files below a directory give: first what the descriptions say, then what the sources
register.
-/

namespace BindingStubs.Stub

open Gen

def tablePattern : Pattern.Regex := Pattern.fixed "PyMethodDef(?!\\s*\\*)"

/-- The entries of a method table, the last of which only ends it. -/
def tableEntries (content : String) (start : Nat) : List (List String) :=
  let table := Source.bodyFrom content start
  ((Source.bracePieces table (Source.afterBrace table) (some ',')).dropLast).map fun entry =>
    Source.bracePieces entry (Source.afterBrace entry) (some ',')

def tabledFunctions (i : Implementation) : Gen String := do
  let entries := (tablePattern.allMatches i.content).flatMap fun m => tableEntries i.content m.start
  let methods ← Method.resolveAll i "" .tabled 0 entries
  return String.join (← Method.texts i.path none 2 methods)

def addTabledFunctions (moduleName : String) (i : Implementation) : Gen Unit := do
  addPart i.path moduleName (← tabledFunctions i)

def modulePattern : Pattern.Regex := Pattern.fixed "Py::ExtensionModule<\\w+>\\(\"(\\w+)\"\\)"

def addModulesAt (moduleName : String) (i : Implementation) : List Pattern.Match → Gen Unit
  | [] => return ()
  | m :: rest => do
    let methods ← Method.registeredIn i "" (Source.bodyFrom i.content m.stop)
    let text := String.join (← Method.texts i.path none 2 methods)
    if !(Text.trimEnd text).isEmpty then
      let target := if Text.contains moduleName "." then moduleName else m.group 1
      addToModule (Naming.importName target) (heading i.path ++ text)
      setImports OrderedSet.empty
    addModulesAt moduleName i rest

def addModuleFunctions (moduleName : String) (i : Implementation) : Gen Unit :=
  addModulesAt moduleName i (modulePattern.allMatches i.content)

def exceptionTexts : List (Except Fault ExceptionClass) → Gen (List String)
  | [] => return []
  | found :: rest => do
    let e ← demand found
    let (text, needed) ← demand (e.statement (← read).exceptions)
    needAll needed.toList
    return (text ++ "\n\n") :: (← exceptionTexts rest)

def addExceptions (moduleName : String) (i : Implementation) : Gen Unit := do
  match ExceptionClass.foundIn i.content with
  | [] => return ()
  | found => addToModule moduleName (heading i.path ++ String.join (← exceptionTexts found))

def addFile (path : Path) (add : Implementation → Gen Unit) : Gen Bool := do
  match ← implementation? path with
  | none => return false
  | some i => do
    add i
    return true

def sourceGenerators : List (String → Implementation → Gen Unit) :=
  [addTabledFunctions, addClasses, addModuleFunctions, addExceptions]

def moduleOfSource (moduleName stem : String) : String :=
  if stem == "Translate" then moduleName ++ ".Qt"
  else if stem == "UnitsApiPy" then moduleName ++ ".Units"
  else if ["Selection", "Console", "TaskDialogPython"].contains stem then moduleName ++ "." ++ stem
  else moduleName

def addDescriptions (submodule : String) : List Path → Gen Unit
  | [] => return ()
  | path :: rest => do
    let _ ← addFile path (Description.addDescription submodule)
    addDescriptions submodule rest

def addSource (moduleName : String) (path : Path) :
    List (String → Implementation → Gen Unit) → Gen Unit
  | [] => return ()
  | generator :: rest => do
    let _ ← addFile path (generator moduleName)
    addSource moduleName path rest

def addSources (moduleName : String) : List Path → Gen Unit
  | [] => return ()
  | path :: rest => do
    addSource (moduleOfSource moduleName path.stem) path sourceGenerators
    addSources moduleName rest

def addDirectory (directory : Path) (moduleName submodule : String) : Gen Unit := do
  let tree := (← read).tree
  addDescriptions submodule (tree.xmlFiles directory)
  addSources moduleName (tree.cppFiles directory)

end BindingStubs.Stub
