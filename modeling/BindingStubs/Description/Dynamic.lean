import BindingStubs.Description.Class
import BindingStubs.Property.Text
import BindingStubs.Property.WriteType

set_option autoImplicit false

/-! # Dynamic properties -/

namespace BindingStubs.Description

open Gen

def firstFile? : List Path → Gen (Option String)
  | [] => return none
  | p :: rest => do
    match (← read).tree.read p with
    | .ok content => return some content
    | .error .noSuchFile => firstFile? rest
    | .error f => throw f

/-- Places of the included file: from the root and from the description, with the wanted extension
and with its own. -/
def includePlaces (path : Path) (written extension : String) : List Path :=
  let own := (Path.ofText written).suffix
  [SourceTree.root.join written, path.parent.join written].flatMap fun p =>
    [p.withSuffix extension, p.withSuffix own]

def included? (c : DescribedClass) (extension : String) : Gen (Option String) := do
  match c.element.attribute? "Include" with
  | none => throw (.noInclude c.path.text)
  | some written =>
    if !(SourceTree.root.join written).isNamed then throw .badValue
    match ← firstFile? (includePlaces c.path written extension) with
    | some content => return some content
    | none =>
      if !Text.endsWith written ".hxx" then
        report .warning .xmlIncludes ("Could not find cpp file for " ++ c.path.text)
      return none

def propertyNamespace (path : Path) : Except Fault String :=
  match path.parts.dropWhile (· != "Mod") with
  | _ :: namespace_ :: _ => .ok namespace_
  | [_] => .error .outOfRange
  | [] =>
    if path.parts.contains "App" then .ok "App"
    else if path.parts.contains "Gui" then .ok "Gui"
    else .error .noPropertyNamespace

def macroPatterns : List String := ["\\bADD_PROPERTY\\(", "\\bADD_PROPERTY_TYPE\\(",
  "\\bEXTENSION_ADD_PROPERTY\\(", "\\bEXTENSION_ADD_PROPERTY_TYPE\\("]

def macroPlaces (body : String) : List Nat :=
  macroPatterns.flatMap fun written =>
    ((Pattern.fixed written).allMatches body).map fun m => m.start

def propertyAt (path : Path) (around : Property.Surroundings) (place : Nat) : Gen String := do
  let arguments := Source.argumentsOf around.body.toList place
  let namespace_ ← demand (propertyNamespace path)
  let m ← demand (Property.Macro.make arguments { around with namespace_, place })
  let typeId ← m.typeId?
  let readType ← Property.readType typeId
  let writeType ← Property.writeType m typeId
  Property.Definition.text
    { name := m.name, readType, writeType, docs := m.fullDocs typeId, readOnly := m.isReadOnly typeId }

def propertiesAt (path : Path) (around : Property.Surroundings) : List Nat → Gen (List String)
  | [] => return []
  | place :: rest => do
    let text ← propertyAt path around place
    return text :: (← propertiesAt path around rest)

def pastedMatches (written content : String) : Except Fault (List Pattern.Match) := do
  let r ← Pattern.read {} written
  return r.allMatches content

def dynamicProperties (c : DescribedClass) : Gen (List String) := do
  let source := (← included? c ".cpp").getD ""
  if source.isEmpty then return []
  let some twin := c.element.attribute? "Twin" | throw (.noTwin c.path.text)
  let some header ← included? c ".h" | throw .noHeader
  let declared ← demand (pastedMatches ("class .*\\b" ++ twin ++ "[^\x7b]*") header)
  let declarations := declared.map fun m => Source.bodyFrom header m.start
  match ← demand (pastedMatches (twin ++ "::" ++ twin) source) with
  | [] => return []
  | m :: _ =>
    let body := Source.bodyFrom source m.start
    propertiesAt c.path { body, source, declarations } (macroPlaces body)

end BindingStubs.Description
