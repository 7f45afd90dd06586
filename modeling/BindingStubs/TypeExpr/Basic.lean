import BindingStubs.Naming
import BindingStubs.OrderedSet

set_option autoImplicit false

/-!
# Type expressions

A type inferred from code: anything, the text of a type, or a union.
-/

namespace BindingStubs

inductive TypeExpr where
  | any
  | text (s : String)
  | union (items : List TypeExpr) (imports : NameSet)

namespace TypeExpr

instance : Inhabited TypeExpr := ⟨any⟩

def anyText : String := "typing.Any"

def noneText : String := "None"

def noneLast (texts : List String) : List String :=
  if texts.contains noneText then texts.erase noneText ++ [noneText] else texts

/-- The printed form of a type text, and the module it needs. A text with brackets or without a
module stays as it is. -/
def printText (s : String) : String × Option String :=
  if Text.contains s "[" then (s, none)
  else match Naming.moduleName? s with
    | none => (s, none)
    | some name => if name.isEmpty then (s, none) else Naming.imported s

mutual

def print : TypeExpr → String × TypeExpr
  | any => (anyText, any)
  | text s => (s, text s)
  | union items imports =>
    let (texts, items, imports) := walk (1 < items.length) items imports
    (Text.join " | " (noneLast texts), union items imports)

/-- The printed forms of alternatives, one after another. Only among `many` alternatives does
anything need a module. -/
def walk (many : Bool) : List TypeExpr → NameSet → List String × List TypeExpr × NameSet
  | [], imports => ([], [], imports)
  | any :: rest, imports =>
    let (texts, items, imports) :=
      walk many rest (if many then imports.insert "typing" else imports)
    (anyText :: texts, any :: items, imports)
  | text s :: rest, imports =>
    let (shown, needed) := printText s
    let (texts, items, imports) := walk many rest (imports.insertAll needed.toList)
    (shown :: texts, text s :: items, imports)
  | union inner learned :: rest, imports =>
    let (shown, inner) := print (union inner learned)
    let (texts, items, imports) := walk many rest (imports.union learned)
    (shown :: texts, inner :: items, imports)

end

def shown (t : TypeExpr) : String := t.print.1

def learned : TypeExpr → NameSet
  | union _ imports => imports
  | _ => OrderedSet.empty

def alternatives : TypeExpr → List TypeExpr
  | union items _ => items
  | t => [t]

def isAny : TypeExpr → Bool
  | any => true
  | text s => s == anyText
  | union _ _ => false

def isText (t : TypeExpr) (s : String) : Bool :=
  match t with
  | text own => own == s
  | _ => false

def emptyUnion : TypeExpr := union [] OrderedSet.empty

def same : TypeExpr → TypeExpr → Bool
  | any, any => true
  | text a, text b => a == b
  | _, _ => false

def addTo (items : List TypeExpr) (item : TypeExpr) : List TypeExpr :=
  if items.any (same item) then items else items ++ [item]

def unionOf (items : List TypeExpr) : TypeExpr := union (items.foldl addTo []) OrderedSet.empty

def unionOfTexts (texts : List String) : TypeExpr := unionOf (texts.map text)

def add (t item : TypeExpr) : TypeExpr :=
  match t with
  | union items imports =>
    let (shown, item) := item.print
    union (addTo items (text shown)) (imports.union item.learned)
  | t => t

def printed : TypeExpr → List String
  | union items imports => (walk (1 < items.length) items imports).1
  | t => [t.shown]

end TypeExpr

end BindingStubs
