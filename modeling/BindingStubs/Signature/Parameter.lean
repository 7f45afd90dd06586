import BindingStubs.Literal.Basic
import BindingStubs.OrderedSet

set_option autoImplicit false

/-! # Parameters -/

namespace BindingStubs

/-! ## Type hints

The alternatives of a type, in order of first mention. `None` is printed last. Nothing, or
`typing.Any` alone, is no hint at all. -/

structure TypeHint where
  alternatives : NameSet

namespace TypeHint

def anyText : String := "typing.Any"

def noneText : String := "None"

def ofList? (values : List String) : Option TypeHint :=
  if values.isEmpty || values == [anyText] then none else some ⟨OrderedSet.ofList values⟩

def settle (a : TypeHint) : TypeHint :=
  if a.alternatives.contains noneText then
    ⟨(a.alternatives.erase noneText).insert noneText⟩
  else a

def text (a : TypeHint) : String := Text.join " | " a.settle.alternatives.toList

def insert (a : TypeHint) (value : String) : TypeHint := ⟨a.alternatives.insert value⟩

def union (a b : TypeHint) : TypeHint := ⟨a.alternatives.union b.alternatives⟩

def single? (a : TypeHint) : Option String :=
  match a.alternatives.toList with
  | [value] => some value
  | _ => none

def isText (a : TypeHint) (s : String) : Bool := a.single? == some s

end TypeHint

inductive ParameterKind where
  | positional
  | flexible
  | varPositional
  | keyword
  | varKeyword
  deriving DecidableEq, Repr

namespace ParameterKind

def rank : ParameterKind → Nat
  | .positional => 0
  | .flexible => 1
  | .varPositional => 2
  | .keyword => 3
  | .varKeyword => 4

def label : ParameterKind → String
  | .positional => "POSITIONAL_ONLY"
  | .flexible => "POSITIONAL_OR_KEYWORD"
  | .varPositional => "VAR_POSITIONAL"
  | .keyword => "KEYWORD_ONLY"
  | .varKeyword => "VAR_KEYWORD"

end ParameterKind

inductive DefaultValue where
  | literal (v : Literal)
  /-- An expression copied as it is. -/
  | expression (s : String)
  /-- The text of a default found in documentation. -/
  | written (a : TypeHint)

namespace DefaultValue

def text : DefaultValue → String
  | .literal v => v.show_
  | .expression s => s
  | .written a => a.text

def isNone : DefaultValue → Bool
  | .literal .none => true
  | _ => false

end DefaultValue

structure Parameter where
  name : String
  kind : ParameterKind
  default : Option DefaultValue := none
  hint : Option TypeHint := none

namespace Parameter

/-- The number in the name of an unnamed argument, such as `.0`. -/
def implicitNumber? (name : String) : Option String :=
  match name.toList with
  | '.' :: rest =>
    let digits := String.ofList rest
    if Text.isDigitText digits then some digits else none
  | _ => none

def make (name : String) (kind : ParameterKind) (default : Option DefaultValue)
    (hint : Option TypeHint) : Except Fault Parameter :=
  if default.isSome && (kind == .varPositional || kind == .varKeyword) then .error .badParameter
  else if name.isEmpty then .error .outOfRange
  else match implicitNumber? name with
    | some digits =>
      if kind == .flexible && Text.isIdentifier ("implicit" ++ digits) then
        .ok { name := "implicit" ++ digits, kind := .positional, default, hint }
      else .error .badParameter
    | none =>
      if (Text.isKeyword name && kind != .positional) || !Text.isIdentifier name then
        .error .badParameter
      else .ok { name, kind, default, hint }

def self : Parameter := { name := "self", kind := .positional }

def cls : Parameter := { name := "cls", kind := .positional }

def rest : Parameter := { name := "args", kind := .varPositional }

def withName (p : Parameter) (name : String) : Except Fault Parameter :=
  make name p.kind p.default p.hint

def withNameAndDefault (p : Parameter) (name : String) (default : Option DefaultValue) :
    Except Fault Parameter :=
  make name p.kind default p.hint

def withDefault (p : Parameter) (default : DefaultValue) : Except Fault Parameter :=
  make p.name p.kind (some default) p.hint

def withHint (p : Parameter) (hint : Option TypeHint) : Except Fault Parameter :=
  make p.name p.kind p.default hint

/-- Spaces stand around the equals sign only after an hint. -/
def text (p : Parameter) : String :=
  let hinted := match p.hint with
    | some a => p.name ++ ": " ++ a.text
    | none => p.name
  let defaulted := match p.default with
    | some d => hinted ++ (if p.hint.isSome then " = " else "=") ++ d.text
    | none => hinted
  match p.kind with
  | .varPositional => "*" ++ defaulted
  | .varKeyword => "**" ++ defaulted
  | _ => defaulted

def described (p : Parameter) : String := p.text ++ " [" ++ p.kind.label ++ "]"

end Parameter

end BindingStubs
