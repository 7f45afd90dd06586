import BindingStubs.Inference.Code

set_option autoImplicit false

/-! # Types of items -/

namespace BindingStubs.Inference

open Gen

def appendedTypes (ask : Ask) (c : Code) (name : String) (start stop : Nat) : Gen TypeExpr := do
  let r ← patternOf (name ++ "\\b.append\\(([^;]*)\\);")
  return TypeExpr.unionOfTexts (← caughtTypes ask stop (c.matches r start stop))

def setListTypes (ask : Ask) (stop : Nat) : TypeExpr → List Pattern.Match → Gen TypeExpr
  | found, [] => return found
  | found, m :: rest => do
    let type ← ask (← captured m 1) stop false
    if type.isAny then throw .unknownListItem
    setListTypes ask stop (found.add type) rest

def listType (ask : Ask) (c : Code) (name : String) (start stop : Nat) : Gen TypeExpr := do
  let appended ← appendedTypes ask c name start stop
  let items ← if appended.alternatives.isEmpty then do
      let r ← patternOf ("PyList_SetItem\\s*\\(\\s*" ++ name ++ "\\s*,\\s*[\\w+]+\\s*,([^;]+)\\);")
      setListTypes ask stop TypeExpr.emptyUnion (c.matches r start stop)
    else pure appended
  if items.alternatives.isEmpty then return .text "list"
  else
    let (shown, items) := items.print
    needAll items.learned.toList
    return .text ("list[" ++ shown ++ "]")

def typesOf (ask : Ask) (stop : Nat) : List String → Gen (List TypeExpr)
  | [] => return []
  | s :: rest => do
    let found ← element (ask s stop false)
    return found :: (← typesOf ask stop rest)

def constructedItems (ask : Ask) (c : Code) (r : Pattern.Regex) (start stop : Nat) :
    Gen (List TypeExpr × Bool) := do
  match r.searchIn c.body start stop with
  | none => return ([], false)
  | some m => do
    let found ← typesOf ask stop (Source.commaPieces (← captured m 1))
    return (found, false)

def setItems (ask : Ask) (stop : Nat) (read : Pattern.Match → Gen (String × Gen String)) :
    List Pattern.Match → Gen (List TypeExpr × Bool)
  | [] => return ([], true)
  | m :: rest => do
    let (index, value) ← read m
    let found ← element (do ask (← value) stop false)
    let (more, varies) ← setItems ask stop read rest
    return (found :: more, !Text.isNumericText index && varies)

def byCall (m : Pattern.Match) : Gen (String × Gen String) := do
  let pieces := Source.commaPieces (← captured m 1)
  return (pieces.headD "", piece pieces 1)

def byNames (r : Pattern.Regex) (m : Pattern.Match) : Gen (String × Gen String) := do
  match m.group? (r.named "index"), m.group? (r.named "value") with
  | some index, some value => return (index, return value)
  | _, _ => throw .noSuchAttribute

def setTuplePattern (name : String) : String := Text.join "\n        " [
  "", "PyTuple_(?:SetItem|SET_ITEM)",
  "\\s*\\(\\s*            # function or macro call",
  name ++ "      # tuple variable name,",
  "\\s*,\\s*             # next arg,",
  "(?P<index>[\\w+]+)   # position index,",
  "\\s*,\\s*             # next arg,",
  "(?P<value>[^;]+)    # tuple value,",
  "\\);                 # end function or macro call", ""]

def assignTuplePattern (name : String) : String := Text.join "\n        " [
  "", name ++ "      # tuple variable name",
  "\\s*\\[\\s*            # indexing start",
  "(?P<index>          # position index",
  "    \\w+             # number or variable",
  "    (?:\\+\\+)?       # optional incrementing",
  ")",
  "\\s*]\\s*=\\s*         # indexing end",
  "(?P<value>[^;]+)    # tuple value",
  ";"]

def tupleSources (ask : Ask) (c : Code) (name : String) (declared start stop : Nat) :
    List (Gen (List TypeExpr × Bool)) := [
  do constructedItems ask c (← patternOf "TupleN\\s*\\(([^;]+)\\)") declared start,
  do
    let r ← patternOf (name ++ "\\.setItem\\(([^;]+)\\);")
    setItems ask stop byCall (c.matches r start stop),
  do
    let r ← patternOf (setTuplePattern name) { spaced := true }
    setItems ask stop (byNames r) (c.matches r start stop),
  do
    let r ← patternOf (assignTuplePattern name) { spaced := true }
    setItems ask stop (byNames r) (c.matches r start stop),
  do
    let r ← patternOf ("TupleN\\s+" ++ name ++ "\\s*\\(([^;]+)\\);")
    constructedItems ask c r declared stop]

def firstTuple : List (Gen (List TypeExpr × Bool)) → Gen TypeExpr
  | [] => throw .noTupleItems
  | source :: rest => do
    let (items, varies) ← source
    if items.isEmpty then firstTuple rest
    else
      let found := TypeExpr.tuple items varies
      needAll found.imports.toList
      return .text found.text

def tupleType (ask : Ask) (c : Code) (name : String) (declared start stop : Nat) : Gen TypeExpr :=
  firstTuple (tupleSources ask c name declared start stop)

structure DictItems where
  fixed : TypeExpr.Record
  others : TypeExpr.Mapping := {}

def mapItems (step : DictItems → Pattern.Match → Gen DictItems) :
    DictItems → List Pattern.Match → Gen DictItems
  | found, [] => return found
  | found, m :: rest => do mapItems step (← step found m) rest

def setStringItem (ask : Ask) (stop : Nat) (found : DictItems) (m : Pattern.Match) :
    Gen DictItems := do
  let pieces := Source.commaPieces (← captured m 1)
  let value ← ask (← piece pieces 2) stop false
  return { found with others := found.others.add (.text "str") value }

def setItem (ask : Ask) (stop : Nat) (found : DictItems) (m : Pattern.Match) : Gen DictItems := do
  let pieces := Source.commaPieces (← captured m 1)
  let key ← ask (← piece pieces 1) stop false
  let value ← ask (← piece pieces 2) stop false
  return { found with others := found.others.add key value }

def isQuoted (s : String) : Bool := Text.startsWith s "\"" && Text.endsWith s "\""

def setMember (ask : Ask) (stop : Nat) (found : DictItems) (m : Pattern.Match) :
    Gen DictItems := do
  let pieces := Source.commaPieces (← captured m 1)
  let value ← ask (← piece pieces 1) stop false
  let key := pieces.headD ""
  if isQuoted key then return { found with fixed := found.fixed.add (Text.unquote key) value }
  else
    let key ← ask key stop false
    return { found with others := found.others.add key value }

def assignMember (ask : Ask) (stop : Nat) (found : DictItems) (m : Pattern.Match) :
    Gen DictItems := do
  let key ← captured m 1
  let value ← ask (← captured m 2) stop false
  return { found with fixed := found.fixed.add key value }

def assignItem (ask : Ask) (stop : Nat) (found : DictItems) (m : Pattern.Match) :
    Gen DictItems := do
  let key ← ask (← captured m 1) stop false
  let value ← ask (← captured m 2) stop false
  return { found with others := found.others.add key value }

def dictSources (ask : Ask) (name : String) (stop : Nat) :
    List (String × (DictItems → Pattern.Match → Gen DictItems)) := [
  ("PyDict_SetItemString\\s*\\(\\s*(" ++ name ++ "\\s*,[^;]*)\\);", setStringItem ask stop),
  ("PyDict_SetItem\\s*\\(\\s*(" ++ name ++ "\\s*,[^;]*)\\);", setItem ask stop),
  (name ++ "\\b\\.setItem\\(([^;]*)\\);", setMember ask stop),
  (name ++ "\\b\\[\\\"(\\w+)\\\"]\\s*=\\s*([^;]*);", assignMember ask stop),
  (name ++ "\\b\\[(.*)]\\s*=\\s*([^;]*);", assignItem ask stop)]

/-- Fixed keys and others must not be mixed. -/
def dictText (found : DictItems) : Gen (Option TypeExpr) := do
  if found.fixed.fields.isEmpty then
    if found.others.isEmpty then return none
    else
      let (shown, others) := found.others.print
      needAll others.imports.toList
      return some (.text shown)
  else if found.others.isEmpty then
    let shown ← demand found.fixed.print
    needAll shown.imports.toList
    return some (.text shown.text)
  else throw .mixedDictItems

def firstDict (c : Code) (start stop : Nat) :
    List (String × (DictItems → Pattern.Match → Gen DictItems)) → Gen TypeExpr
  | [] =>
    if Chars.contains c.body "PARAM_PY_DICT".toList then return .text "dict"
    else throw .noDictItems
  | (written, step) :: rest => do
    let r ← patternOf written
    let found ← mapItems step { fixed := { function := c.function } } (c.matches r start stop)
    match ← dictText found with
    | some type => return type
    | none => firstDict c start stop rest

def dictType (ask : Ask) (c : Code) (name : String) (start stop : Nat) : Gen TypeExpr :=
  firstDict c start stop (dictSources ask name stop)

/-- A container type completed by its items; any other type stays as it is. `declared` and
`start` are the ends of the declaration. -/
def withItems (ask : Ask) (c : Code) (type name : String) (declared start stop : Nat) :
    Gen TypeExpr :=
  match type with
  | "list" => listType ask c name start stop
  | "tuple" => tupleType ask c name declared start stop
  | "dict" => dictType ask c name start stop
  | type => return .text type

end BindingStubs.Inference
