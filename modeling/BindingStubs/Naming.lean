import BindingStubs.Fault

set_option autoImplicit false

/-!
# Names of modules and classes

A dotted name is a module followed by a class.
-/

namespace BindingStubs.Naming

def namespaceModules : List (String × String) :=
  [("Base", "FreeCAD"), ("App", "FreeCAD"), ("Gui", "FreeCADGui"), ("Data", "FreeCAD"),
    ("Attacher", "Part")]

def moduleAliases : List (String × String) :=
  [("Mesh", "MeshModule"), ("Path", "PathModule"), ("Points", "PointsModule"),
    ("Part", "PartModule")]

def find? (table : List (String × String)) (key : String) : Option String :=
  (table.find? (fun entry => entry.1 == key)).map Prod.snd

def moduleOfAlias? (alias_ : String) : Option String :=
  (moduleAliases.find? (fun entry => entry.2 == alias_)).map Prod.fst

def canonical (name : String) : String := (moduleOfAlias? name).getD name

def importName (namespace_ : String) : String :=
  let name := (find? namespaceModules namespace_).getD namespace_
  (find? moduleAliases name).getD name

def className (dotted : String) : String :=
  ((Text.cutLast? dotted ".").map Prod.snd).getD dotted

def moduleName? (dotted : String) : Option String := (Text.cutLast? dotted ".").map Prod.fst

def moduleName (dotted : String) : Except Fault String :=
  match moduleName? dotted with
  | some name => .ok name
  | none => .error (.noModule dotted)

/-- A dotted name whose module is given by its import name, and that import name. -/
def imported (dotted : String) : String × Option String :=
  match moduleName? dotted with
  | none => (dotted, none)
  | some name =>
    let name := importName name
    (name ++ "." ++ className dotted, some name)

/-- A C++ name divided into its namespace and the rest; it may have one namespace only. -/
def cutNamespace (cppName : String) : Except Fault (Option String × String) :=
  match Text.split cppName "::" with
  | [name] => .ok (none, name)
  | [namespace_, name] => .ok (some namespace_, name)
  | _ => .error .badValue

end BindingStubs.Naming
