import BindingStubs.ClassReference
import BindingStubs.Format.ParseCall
import BindingStubs.Format.Symbol
import BindingStubs.Literal.Accepted

set_option autoImplicit false

/-! # Decoding argument formats -/

namespace BindingStubs.Literal

open Gen

def reportBroken : List String → Gen Unit
  | [] => return ()
  | s :: rest => do
    report .error .literals ("Cannot evaluate value=" ++ Text.quoted s)
    reportBroken rest

def value? (s : String) : Gen (Option Literal) := do
  let found := accept s
  reportBroken found.broken
  if found.endless then throw .tooDeep
  match found.spelling with
  | Option.none => return Option.none
  | some spelling =>
    match value s spelling with
    | .ok v => return some v
    | .error _ => throw .badValue

end BindingStubs.Literal

namespace BindingStubs.Format

open Gen

def pointerTypes : List (String × String) := [
  ("PyAny_Type", "object"), ("PyUnicode_Type", "str"), ("PyBytes_Type", "bytes"),
  ("PyBool_Type", "bool"), ("PyLong_Type", "int"), ("PyFloat_Type", "float"),
  ("PyComplex_Type", "complex"), ("PyList_Type", "list"), ("PyDict_Type", "dict"),
  ("PyTuple_Type", "tuple"), ("PySet_Type", "set"), ("PyFrozenSet_Type", "frozenset"),
  ("PyByteArray_Type", "bytearray"), ("PySlice_Type", "slice"), ("PyType_Type", "type"),
  ("PyModule_Type", "module"), ("PyDateTime_Type", "datetime.datetime"),
  ("PyDate_Type", "datetime.date"), ("PyTime_Type", "datetime.time"),
  ("PyTzInfo_Type", "datetime.tzinfo"), ("PyDelta_Type", "datetime.timedelta"),
  ("PySequence_Type", "typing.Sequence"), ("PyIterator_Type", "typing.Iterator"),
  ("PyClass_Type", "typing.Type")]

def typeOfPointer? (written : String) : Gen (Option String) := do
  let bare := Text.dropEnd (Text.dropStart (Text.dropStart written "&") "(") ")"
  if Text.endsWith bare "::Type" || Text.endsWith bare "::type_object(" then
    let name ← ClassReference.ofCppType bare
    need (← demand (Naming.moduleName name))
    return some name
  else if Text.startsWith bare "Py" then
    match Naming.find? pointerTypes bare with
    | some type => return some type
    | none => throw .noSuchKey
  else
    report .error .formats ("Unknown pointer kind pointerArg=" ++ Text.quoted bare)
    return none

/-- The type given by the first of the remaining arguments. If that is no type object, the next
ones are tried too, but only to report them. -/
def pointerType? : List String → Gen (Option String)
  | [] => return none
  | written :: rest => do
    match ← typeOfPointer? written with
    | some type => return some type
    | none =>
      let _ ← pointerType? rest
      return none

structure Progress where
  optional : Bool := false
  kind : ParameterKind
  parameterIndex : Nat := 0
  argumentIndex : Nat
  groups : Groups := {}

/-- Values that are expressions of the language rather than literals. -/
def knownExpression? (s : String) : Option (DefaultValue × Option String) :=
  if s == "nullptr" then some (.literal .none, none)
  else if Text.endsWith s "_MAX" then some (.expression "sys.float_info.max", some "sys")
  else if Text.startsWith s "M_PI/8" then some (.expression "math.pi / 8", some "math")
  else none

def firstValue? : List String → Gen (Option DefaultValue)
  | [] => return none
  | written :: rest => do
    let s := Text.dropStart written "Py_"
    match ← Literal.value? s with
    | some v => return some (.literal v)
    | none =>
      match knownExpression? s with
      | some (d, needed) =>
        needAll needed.toList
        return some d
      | none => firstValue? rest

/-- Parts of expressions that are not expected to be values. -/
def callMarks : List String := ["->", "()", "::"]

def assignedValues (name declarations : String) : Gen (List String) := do
  let r ← demand (Pattern.read {} ("\\b" ++ name ++ "\\b\\s*=\\s*(?P<value>[^;,]*)"))
  return (r.allMatches declarations).map fun m => m.group 1

def unitDefault (c : ParseCall) (p : Progress) (code : String) : Gen SlotDefault := do
  let otherwise : SlotDefault := if p.optional then .unknown else .absent
  match ← c.receiver? code p.argumentIndex with
  | none => return otherwise
  | some name =>
    let values ← assignedValues name c.declarations
    match ← firstValue? values with
    | some d => return .known d
    | none =>
      if !values.isEmpty && p.optional &&
          values.all fun s => callMarks.all fun mark => !Text.contains s mark then
        report .warning .formats
          ("Unable to convert c expressions=" ++ Text.quotedList values ++ " to python")
      return otherwise

def placeSlot (p : Progress) (s : Slot) : Gen (Option Parameter × Progress) := do
  if p.groups.isOpen then return (none, { p with groups := ← demand (p.groups.add s) })
  else
    let made ← demand (Parameter.make s.name p.kind s.default.toDefault? (TypeHint.ofList? [s.type]))
    return (some made, { p with parameterIndex := p.parameterIndex + 1 })

def unitSlot (c : ParseCall) (p : Progress) (u : ArgumentUnit) (type : String) : Gen (Slot × Bool) := do
  let name ← c.parameterName u.code p.argumentIndex p.parameterIndex
  let default ← unitDefault c p u.code
  return ({ type, name, default }, p.optional || !default.isAbsent)

def unitType? (c : ParseCall) (p : Progress) (u : ArgumentUnit) : Gen (Option String) :=
  if u.code == pointerCode then pointerType? (c.arguments.drop p.argumentIndex)
  else return some u.type

/-- What a symbol adds: a parameter, if it completes one, and the progress after it. A unit whose
type is needed but not given adds nothing and leaves no progress. -/
def decodeSymbol (c : ParseCall) (p : Progress) :
    Symbol × List Char → Gen (Option Parameter × Option Progress)
  | (.groupStart, _) => return (none, some { p with groups := p.groups.start })
  | (.groupEnd, _) => do
    let (slot, groups) := p.groups.finish
    let (made, p) ← placeSlot { p with groups := groups } (← demand slot)
    return (made, some p)
  | (.optional, _) => return (none, some { p with optional := true })
  | (.keywordOnly, _) => return (none, some { p with optional := true, kind := .keyword })
  | (.unknown, remaining) => do
    report .error .formats ("Unknown format: " ++ String.ofList remaining)
    return (none, some p)
  | (.unit u, remaining) => do
    match ← unitType? c p u with
    | none =>
      report .error .formats
        ("self._remainingFormat=" ++ Text.quoted (String.ofList remaining) ++ ", " ++ c.described)
      return (none, none)
    | some type =>
      let (slot, optional) ← unitSlot c p u type
      let (made, p) ← placeSlot { p with optional := optional } slot
      return (made, some { p with argumentIndex := p.argumentIndex + u.size })

/-- The parameters of a format, and the progress at its end. A type that is not given where one is
needed ends them early. -/
def decodeFrom (c : ParseCall) :
    Progress → List (Symbol × List Char) → Gen (List Parameter × Option Progress)
  | p, [] => return ([], some p)
  | p, symbol :: rest => do
    match ← decodeSymbol c p symbol with
    | (made, none) => return (made.toList, none)
    | (made, some p) =>
      let (more, last) ← decodeFrom c p rest
      return (made.toList ++ more, last)

def Progress.initial (c : ParseCall) : Progress :=
  { kind := if c.keywords.isEmpty then .positional else .flexible
    argumentIndex := c.style.firstIndex }

def parameters (c : ParseCall) : Gen (List Parameter) := do
  return (← decodeFrom c (.initial c) (symbols c.format)).1

end BindingStubs.Format
