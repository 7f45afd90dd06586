import BindingStubs.ExceptionClass
import BindingStubs.Log
import BindingStubs.Registry
import BindingStubs.Signature.Basic
import BindingStubs.Source.Tree
import BindingStubs.Stub.Store

set_option autoImplicit false

/-! # Projects and sessions -/

namespace BindingStubs

structure Project where
  tree : SourceTree
  descriptions : List Path
  registry : Registry
  exceptions : List ExceptionClass
  /-- The order in which sets of types are listed. -/
  sets : Listing String := .sortedBy Text.precedes

namespace Project

def collectRegistrations (tree : SourceTree) : List Path → Except Fault (List Registration)
  | [] => .ok []
  | p :: rest => do
    let found ← Registry.registrationsIn (← tree.read p)
    return found ++ (← collectRegistrations tree rest)

def collectExceptions (tree : SourceTree) : List Path → Except Fault (List ExceptionClass)
  | [] => .ok []
  | p :: rest => do
    let found ← Fault.collect (ExceptionClass.foundIn (← tree.read p))
    return found ++ (← collectExceptions tree rest)

def load (tree : SourceTree) : Except Fault Project := do
  let sources := tree.cppFiles SourceTree.root
  let registrations ← collectRegistrations tree sources
  let exceptions ← collectExceptions tree sources
  return {
    tree := tree
    descriptions := tree.xmlFiles SourceTree.root
    registry := .ofRegistrations registrations
    exceptions := exceptions }

end Project

/-- What is remembered while the classes of one description are written. -/
structure Recollection where
  father : Option Path := none
  /-- Functions looked up, by name and class, with their texts. -/
  bodies : List ((String × String) × Option String) := []
  lastFunction : String := ""

structure Session where
  imports : NameSet := OrderedSet.empty
  /-- Newest record first. -/
  log : List LogRecord := []
  unreadable : List String := []
  unwritable : List String := []
  modules : ModuleStore := .empty
  recollection : Recollection := {}

abbrev Gen := ReaderT Project (ExceptT Fault (StateM Session))

namespace Gen

def report (level : LogLevel) (reporter : Reporter) (text : String) : Gen Unit :=
  modify fun s => { s with log := { level, reporter, text } :: s.log }

def need (name : String) : Gen Unit := modify fun s => { s with imports := s.imports.insert name }

def needAll (names : List String) : Gen Unit :=
  modify fun s => { s with imports := s.imports.insertAll names }

def imports : Gen NameSet := do return (← get).imports

def setImports (names : NameSet) : Gen Unit := modify fun s => { s with imports := names }

/-- A value or fault of a pure step. Parameters that make no signature are reported. -/
def demand {α : Type} (step : Except Fault α) : Gen α :=
  match step with
  | .ok a => return a
  | .error (.signatureRefused shown) => do
    report .error .signatures shown
    throw (.signatureRefused shown)
  | .error f => throw f

def outcome {α : Type} (action : Gen α) : Gen (Except Fault α) :=
  tryCatch (do return .ok (← action)) fun f => return .error f

/-- Runs an action with no imports and gives them back; those of the session stay as they were. -/
def apart {α : Type} (action : Gen α) : Gen (α × NameSet) := do
  let saved ← imports
  setImports OrderedSet.empty
  let result ← outcome action
  let found ← imports
  setImports saved
  match result with
  | .ok a => return (a, found)
  | .error f => throw f

/-- A step of a sequence. If it asks for more of another sequence than there is, the sequence
itself is broken. -/
def element {α : Type} (action : Gen α) : Gen α :=
  tryCatch action fun f => match f with
    | .nothingLeft => throw .sequenceBroken
    | f => throw f

def startFile : Gen Unit :=
  modify fun s => { s with imports := OrderedSet.empty, recollection := {} }

def alterModule (key : String) (change : ModuleStore → ModuleId → ModuleStore) : Gen Unit := do
  let (result, modules) := (← get).modules.alterItem ModuleStore.root key change
  modify fun s => { s with modules := modules }
  demand result

def addToModule (key text : String) : Gen Unit := do
  let needed ← imports
  alterModule key fun store m => store.updateLeaf m text needed.toList

def run {α : Type} (action : Gen α) (project : Project) (session : Session) :
    Except Fault α × Session :=
  (ReaderT.run action project).run.run session

end Gen

end BindingStubs
