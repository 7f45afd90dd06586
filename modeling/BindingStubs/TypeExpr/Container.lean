import BindingStubs.TypeExpr.Basic

set_option autoImplicit false

/-!
# Types of containers

Tuples, dictionaries, and dictionaries with fixed keys.
-/

namespace BindingStubs.TypeExpr

structure Container where
  text : String
  repeated : Bool := false
  imports : NameSet := OrderedSet.empty

/-- The type of a tuple. If its length may vary and all items are printed alike, one item stands
for all. -/
def tuple (items : List TypeExpr) (varies : Bool) : Container :=
  let many := 1 < items.length
  let (texts, items, imports) :=
    if varies then walk many items OrderedSet.empty else ([], items, OrderedSet.empty)
  if varies && texts.eraseDups.length == 1 then
    let (texts, _, imports) := walk many (items.take 1) imports
    { text := "tuple[" ++ Text.join ", " texts ++ ", ...]", repeated := true, imports := imports }
  else if items.isEmpty then { text := "tuple", imports := imports }
  else
    let (texts, _, imports) := walk many items imports
    { text := "tuple[" ++ Text.join ", " texts ++ "]", imports := imports }

structure Mapping where
  keys : TypeExpr := emptyUnion
  values : TypeExpr := emptyUnion
  imports : NameSet := OrderedSet.empty

namespace Mapping

def isEmpty (m : Mapping) : Bool := m.keys.alternatives.isEmpty && m.values.alternatives.isEmpty

def add (m : Mapping) (key value : TypeExpr) : Mapping :=
  { m with keys := m.keys.add key, values := m.values.add value }

def print (m : Mapping) : String × Mapping :=
  if m.isEmpty then ("dict", m)
  else
    let (keyText, keys) := m.keys.print
    let (valueText, values) := m.values.print
    ("dict[" ++ keyText ++ ", " ++ valueText ++ "]",
      { keys, values, imports := (m.imports.union keys.learned).union values.learned })

end Mapping

structure Record where
  function : String
  fields : List (String × TypeExpr) := []

namespace Record

def isFieldName (key : String) : Bool := Text.isIdentifier key && !Text.isKeyword key

/-- Keys that are no names need the functional form of the declaration. -/
def isFunctional (r : Record) : Bool := r.fields.any fun field => !isFieldName field.1

def add (r : Record) (key : String) (value : TypeExpr) : Record :=
  if r.fields.any (fun field => field.1 == key) then
    { r with fields := r.fields.map fun field => if field.1 == key then (key, value) else field }
  else { r with fields := r.fields ++ [(key, value)] }

def upperFirst (s : String) : Except Fault String :=
  match s.toList with
  | [] => .error .outOfRange
  | c :: rest => .ok (String.ofList (Text.upperChars c ++ rest))

/-- The name of the class; its declaration is among the imports. -/
def print (r : Record) : Except Fault Container := do
  let (texts, _, imports) :=
    walk (1 < r.fields.length) (r.fields.map Prod.snd) OrderedSet.empty
  let keys := r.fields.map Prod.fst
  let name := "Return" ++ (← upperFirst r.function) ++ "Dict"
  let declaration :=
    if r.isFunctional then
      let lines := List.zipWith (fun key text => "'" ++ key ++ "': " ++ text) keys texts
      name ++ " = typing.TypedDict('" ++ name ++ "', \x7b\n" ++
        Text.indent (Text.join ",\n" lines) ++ ",\n\x7d)"
    else
      let lines := List.zipWith (fun key text => key ++ ": " ++ text) keys texts
      "class " ++ name ++ "(typing.TypedDict):\n" ++ Text.indent (Text.join "\n" lines)
  return {
    text := name
    imports := ((OrderedSet.ofList ["typing"]).union imports).insert declaration }

end Record

end BindingStubs.TypeExpr
