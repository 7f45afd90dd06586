import BindingStubs.Signature.Found

set_option autoImplicit false

/-! # Implementation files and bodies of functions -/

namespace BindingStubs.Source

def makerName : String := "PyMake"

/-- Patterns of the definition of a function, in the order in which they are tried. -/
def definitionPatterns (function cppClass : String) : List String :=
  if function == makerName then [function ++ "\\s*\\(\\s*struct\\s*_typeobject\\s*\\*"]
  else [
    function ++ "\\s*\\(\\s*PyObject\\s*\\*.*?\\)",
    cppClass ++ "::" ++ function ++ "\\s*\\([^)]*\\)",
    "Py::Object " ++ function ++ "\\s*\\([^)]*\\)"]

/-- Patterns that hold names from the source; all of them must be well formed. -/
def readPatterns : List String → Except Fault (List Pattern.Regex)
  | [] => .ok []
  | written :: rest => do
    let r ← Pattern.read {} written
    return r :: (← readPatterns rest)

def functionBody? (content function cppClass : String) : Except Fault (Option String) := do
  let patterns ← readPatterns (definitionPatterns function cppClass)
  return (patterns.findSome? fun r => r.search content).map fun m => bodyFrom content m.stop

def definition? (content function cppClass : String) : Except Fault (Option String) :=
  (functionBody? content function cppClass).map fun found => found.filter fun body => !body.isEmpty

end BindingStubs.Source

namespace BindingStubs

structure Implementation where
  path : Path
  content : String

namespace Implementation

open Gen

def pathOf (tree : SourceTree) (p : Path) : Path :=
  let special := (p.withStem (p.stem ++ "Imp")).withSuffix ".cpp"
  if tree.has special then special else p.withSuffix ".cpp"

def load (p : Path) : Gen Implementation := do
  let tree := (← read).tree
  return { path := p, content := ← demand (tree.read (pathOf tree p)) }

def functionBody? (i : Implementation) (function cppClass : String) : Gen (Option String) :=
  demand (Source.functionBody? i.content function cppClass)

def signatures (i : Implementation) (function cppClass owner : String) (firstNumber : Int) :
    Gen (List Signature) := do
  match ← i.functionBody? function cppClass with
  | none => return []
  | some body => Signature.fromCode { body, function, owner, path := i.path, firstNumber }

end Implementation

end BindingStubs
