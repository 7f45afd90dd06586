import BindingStubs.Documentation.Prepared
import BindingStubs.Session

set_option autoImplicit false

/-! # Texts of properties -/

namespace BindingStubs.Property

open Gen

def divides (c : Char) : Bool :=
  c == '[' || c == ']' || c == '|' || c == ',' || c == ':' || c == '='

def partsLoop : (part : List Char) → List Char → List String
  | part, [] => [String.ofList part.reverse]
  | part, c :: rest =>
    if divides c then String.ofList part.reverse :: partsLoop [] rest else partsLoop (c :: part) rest

def modulesIn (type : String) : List String :=
  (partsLoop [] type.toList).filterMap fun part =>
    let name := Text.trim part
    if name == "..." then none else Naming.moduleName? name

def declaresType (line : String) : Bool :=
  Text.contains line "typing.TypeAlias" || Text.contains line "typing.TypeVar"

/-- The first line that is a type; the declarations before it are imported. -/
def typeLine : List String → Gen String
  | [] => throw .onlyTypeAliases
  | written :: rest => do
    let line := Text.trim written
    if declaresType line then
      needAll (modulesIn line)
      need line
      typeLine rest
    else if line.isEmpty then typeLine rest
    else return line

def settledType (written : String) : Gen String := do
  let type ← if written.isEmpty then pure "" else typeLine (Text.split written "\n")
  needAll (modulesIn type)
  return type

structure Definition where
  name : String
  readType : String := ""
  writeType : String := ""
  docs : String := ""
  readOnly : Bool := true

def Definition.text (d : Definition) : Gen String := do
  let type ← settledType d.readType
  let result := if type.isEmpty then "" else " -> " ++ type
  let getter := "@property\ndef " ++ d.name ++ "(self)" ++ result ++ ":" ++
    Documentation.bodyOrEllipsis d.docs ++ "\n"
  if d.readOnly then return getter
  else
    let type ← settledType d.writeType
    let hint := if type.isEmpty then "" else ": " ++ type
    return getter ++ "@" ++ d.name ++ ".setter\ndef " ++ d.name ++ "(self, value" ++ hint ++
      "): ...\n\n"

end BindingStubs.Property
