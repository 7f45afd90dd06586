import BindingStubs.Naming
import BindingStubs.OrderedSet

set_option autoImplicit false

/-!
# Stub modules

A module has a text, imports and submodules by name. Modules live in a store and know each other by
their places in it, so that one module may be a submodule of several. For writing, a module and what
is below it are laid out as a tree.
-/

namespace BindingStubs

/-- The place of a module in a store; later modules have greater ones. -/
abbrev ModuleId := Nat

structure ModuleRecord where
  name : String := ""
  content : String := ""
  imports : NameSet := OrderedSet.empty
  isPackage : Bool := false
  /-- The module in which this one was found first. -/
  parent : Option ModuleId := none
  children : List (String × ModuleId) := []

namespace ModuleRecord

def leaf (content : String) (imports : List String) : ModuleRecord :=
  { content, imports := OrderedSet.ofList imports }

def child? (m : ModuleRecord) (name : String) : Option ModuleId :=
  (m.children.find? (fun entry => entry.1 == name)).map Prod.snd

/-- Sets an entry; one that is there keeps its place. -/
def setEntry (entries : List (String × ModuleId)) (entry : String × ModuleId) :
    List (String × ModuleId) :=
  if entries.any (fun e => e.1 == entry.1) then
    entries.map fun e => if e.1 == entry.1 then entry else e
  else entries ++ [entry]

/-- Adds text and imports; submodules of the other module replace those of the same name. -/
def update (m other : ModuleRecord) : ModuleRecord :=
  { m with
    content := m.content ++ other.content
    imports := m.imports.union other.imports
    children := other.children.foldl setEntry m.children }

def lineOf (text : String) : String := if Text.endsWith text "\n" then text else text ++ "\n"

def addText (text : String) (m : ModuleRecord) : ModuleRecord :=
  { m with content := m.content ++ lineOf text }

def addImports (names : List String) (m : ModuleRecord) : ModuleRecord :=
  { m with imports := m.imports.insertAll names }

end ModuleRecord

inductive StubModule where
  | node (content : String) (imports : NameSet) (isPackage : Bool)
      (children : List (String × StubModule))

namespace StubModule

instance : Inhabited StubModule := ⟨.node "" OrderedSet.empty false []⟩

def empty : StubModule := .node "" OrderedSet.empty false []

def leaf (content : String) (imports : List String) : StubModule :=
  .node content (OrderedSet.ofList imports) false []

def content : StubModule → String
  | .node content _ _ _ => content

def imports : StubModule → NameSet
  | .node _ imports _ _ => imports

def isPackage : StubModule → Bool
  | .node _ _ isPackage _ => isPackage

def children : StubModule → List (String × StubModule)
  | .node _ _ _ children => children

def child? (m : StubModule) (name : String) : Option StubModule :=
  (m.children.find? (fun entry => entry.1 == name)).map Prod.snd

mutual

def paths : StubModule → List (List String × StubModule)
  | .node _ _ _ children => pathsOf children

def pathsOf : List (String × StubModule) → List (List String × StubModule)
  | [] => []
  | (name, m) :: rest =>
    ([name], m) :: ((paths m).map fun entry => (name :: entry.1, entry.2)) ++ pathsOf rest

end

end StubModule

end BindingStubs
