import BindingStubs.Implementation

set_option autoImplicit false

/-!
# Described classes

A class that an XML element describes, with the file that implements it.
-/

namespace BindingStubs.Description

open Gen

structure DescribedClass where
  implementation : Implementation
  element : Xml.Element
  fullName : String

namespace DescribedClass

def path (c : DescribedClass) : Path := c.implementation.path

def name (c : DescribedClass) : String := Naming.className c.fullName

def namedFather (c : DescribedClass) : Except Fault Path :=
  match c.element.attribute? "FatherInclude" with
  | none => .error .noSuchKey
  | some written =>
    let place := SourceTree.root.join written
    if place.isNamed then .ok (place.withSuffix ".xml") else .error .badValue

/-- The description of the father. It is worked out once for all classes of a file. -/
def fatherPath (c : DescribedClass) : Gen Path := do
  match (← get).recollection.father with
  | some p => return p
  | none =>
    let p ← demand c.namedFather
    modify fun s => { s with recollection := { s.recollection with father := some p } }
    return p

def isImplicit (function : String) : Bool := function == "PyInit" || function == "PyMake"

def fatherBody? (i : Implementation) (function cppClass : String) : Gen (Option String) := do
  match ← demand (Source.definition? i.content function cppClass) with
  | some body => return some body
  | none => if isImplicit function then return none else throw .noCurrentElement

def inherited? (c : DescribedClass) (function cppClass : String) : Gen (Option String) := do
  let father ← c.fatherPath
  match ← outcome (Implementation.load father) with
  | .ok i => fatherBody? i function cppClass
  | .error .noSuchFile =>
    if !isImplicit function then
      report .error .xmlMethods ("Cannot find self.parentXmlPath=" ++ father.described ++
        " for self.baseGenFilePath=" ++ c.path.described)
    return none
  | .error f => throw f

def lookUp (c : DescribedClass) (function cppClass : String) : Gen (Option String) := do
  match ← demand (Source.definition? c.implementation.content function cppClass) with
  | some body => return some body
  | none => c.inherited? function cppClass

/-- The text of a function; each is looked up only once. -/
def functionBody? (c : DescribedClass) (function cppClass : String) : Gen (Option String) := do
  let key := (function, cppClass)
  match (← get).recollection.bodies.find? fun entry => entry.1 == key with
  | some (_, body) => return body
  | none =>
    let body ← c.lookUp function cppClass
    modify fun s =>
      { s with recollection := { s.recollection with bodies := (key, body) :: s.recollection.bodies } }
    return body

def codeSignatures (c : DescribedClass) (function cppClass : String) (firstNumber : Int) :
    Gen (List Signature) := do
  match ← c.functionBody? function cppClass with
  | none => return []
  | some body =>
    modify fun s => { s with recollection := { s.recollection with lastFunction := function } }
    Signature.fromCode { body, function, owner := c.fullName, path := c.path, firstNumber }

end DescribedClass

def flag (e : Xml.Element) (name : String) (absent : Bool) : Gen Bool :=
  match e.attribute? name with
  | none => return absent
  | some word => demand (Text.toBool word)

end BindingStubs.Description
