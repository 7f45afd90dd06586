import BindingStubs.Pattern.Matcher
import BindingStubs.Pattern.Reader
import BindingStubs.Source.Tree

set_option autoImplicit false

/-!
# Type tables

Ids of types that sources register, as constants in classes.
-/

namespace BindingStubs

structure TypeEntry where
  className : String
  name : String
  id : String
  deriving DecidableEq, Repr

structure TypeTable where
  entries : List TypeEntry

namespace TypeTable

def commonClass : String := "Common"

/-- The place of a type id; one that starts with an underscore has none. -/
def slot? (id : String) : Option TypeEntry :=
  let flat := Text.replace id "::" "_"
  match Text.cutFirst? flat "_" with
  | none => some { className := commonClass, name := flat, id := id }
  | some (className, name) =>
    if className.isEmpty then none else some { className := className, name := name, id := id }

def precedes (a b : TypeEntry) : Bool :=
  if a.className != b.className then Text.precedes a.className b.className
  else if a.name != b.name then Text.precedes a.name b.name
  else Text.precedes a.id b.id

def ofIds (ids : List String) : TypeTable :=
  ⟨((ids.eraseDups.filterMap slot?).eraseDups).mergeSort precedes⟩

def initPattern : Pattern.Regex := Pattern.fixed "(\\w[\\w: ]+?)\\s*::init\\(\\)"

def idsIn (content : String) : List String :=
  (initPattern.allMatches content).map fun m => Text.replace (m.group 1) " " ""

def collectIds (tree : SourceTree) : List Path → Except Fault (List String)
  | [] => .ok []
  | p :: rest => do
    let found := idsIn (← tree.read p)
    return found ++ (← collectIds tree rest)

def ofTree (tree : SourceTree) : Except Fault TypeTable := do
  return ofIds (← collectIds tree (tree.cppFiles SourceTree.root))

def classes (t : TypeTable) : List String := (t.entries.map TypeEntry.className).eraseDups

def entriesOf (t : TypeTable) (className : String) : List TypeEntry :=
  t.entries.filter fun e => e.className == className

/-- Members by name; of two with one name the later counts. -/
def members (t : TypeTable) (className : String) : Except Fault (List (String × String)) :=
  match t.entriesOf className with
  | [] => .error .noSuchAttribute
  | entries => .ok (entries.map fun e => (e.name, e.id))

def member (t : TypeTable) (className name : String) : Except Fault String := do
  match ((← t.members className).filter fun m => m.1 == name).getLast? with
  | some (_, id) => return id
  | none => throw .noSuchAttribute

def classText (className : String) (entries : List TypeEntry) : String :=
  "class " ++ className ++ ":\n" ++
    Text.indent (Text.join "\n" (entries.map fun e => e.name ++ " = '" ++ e.id ++ "'")) ++ "\n\n\n"

def text (t : TypeTable) : String :=
  Text.trimEnd ("# fmt: off\n" ++
    String.join (t.classes.map fun name => classText name (t.entriesOf name))) ++ "\n"

end TypeTable

end BindingStubs
