import BindingStubs.Naming
import BindingStubs.OrderedSet
import BindingStubs.Pattern.Matcher
import BindingStubs.Pattern.Reader
import BindingStubs.Source.Call
import BindingStubs.Text.Words

set_option autoImplicit false

/-!
# Importable classes

Classes that the sources register under a Python name.
-/

namespace BindingStubs

structure Registration where
  cppClass : String
  name : String
  deriving DecidableEq, Repr

structure Registry where
  unique : List (String × String) := []
  duplicates : OrderedSet (String × String) := OrderedSet.empty

namespace Registry

def bareType (written : String) : String :=
  Text.dropEnd (Text.dropEnd (Text.dropStart written "&") "::type_object()") "::Type"

def registration (cppType name : String) : Registration :=
  let cppType := bareType cppType
  let name := Text.unquote name
  match Text.cutFirst? cppType "::" with
  | none => { cppClass := cppType, name := name }
  | some (namespace_, cppClass) =>
    { cppClass := cppClass,
      name := if namespace_.isEmpty then name else Naming.importName namespace_ ++ "." ++ name }

def callPattern : Pattern.Regex :=
  Pattern.fixed "Base\\s*:\\s*:\\s*Interpreter\\s*\\(\\s*\\)\\s*\\.\\s*addType\\s*\\("

def ofArguments (arguments : List String) : Except Fault Registration :=
  match arguments with
  | [cppType, _, name] => .ok (registration cppType name)
  | _ => .error .wrongType

def registrationsIn (content : String) : Except Fault (List Registration) :=
  (callPattern.allMatches content).mapM fun m =>
    ofArguments ((Source.commaPieces content m.stop).map fun piece =>
      Text.replace (Text.replace piece " " "") "\n" "")

def put (table : List (String × String)) (key value : String) : List (String × String) :=
  if table.any (fun entry => entry.1 == key) then
    table.map fun entry => if entry.1 == key then (key, value) else entry
  else table ++ [(key, value)]

/-- The first and the latest name of each class while registrations come in, and the names of
classes that came more than once. -/
structure Tables where
  first : List (String × String) := []
  latest : List (String × String) := []
  duplicates : OrderedSet (String × String) := OrderedSet.empty

/-- One more registration. The first name of a class becomes a duplicate when the class comes
again. -/
def Tables.add (t : Tables) (entry : Registration) : Tables :=
  let latest := put t.latest entry.cppClass entry.name
  match t.first.lookup entry.cppClass with
  | none => { t with latest, first := t.first ++ [(entry.cppClass, entry.name)] }
  | some name =>
    { t with
      latest
      duplicates := t.duplicates.insertAll [(entry.cppClass, name), (entry.cppClass, entry.name)] }

def ofRegistrations (entries : List Registration) : Registry :=
  let t := entries.foldl Tables.add {}
  let isDuplicate (cppClass : String) := t.duplicates.toList.any fun entry => entry.1 == cppClass
  { unique := t.latest.filter fun entry => !isDuplicate entry.1, duplicates := t.duplicates }

def name? (r : Registry) (cppClass : String) : Option String := r.unique.lookup cppClass

def isImportable (r : Registry) (name : String) : Bool :=
  r.unique.any (fun entry => entry.2 == name) || r.duplicates.toList.any fun entry => entry.2 == name

def repeated (r : Registry) : List (String × List String) :=
  (r.duplicates.toList.map Prod.fst).eraseDups.map fun cppClass =>
    (cppClass, Text.sorted ((r.duplicates.toList.filter fun entry => entry.1 == cppClass).map Prod.snd))

end Registry

end BindingStubs
