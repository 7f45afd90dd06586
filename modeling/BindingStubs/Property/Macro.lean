import BindingStubs.Documentation.Prepared
import BindingStubs.Session

set_option autoImplicit false

/-! # Property macros and flags -/

namespace BindingStubs.Property

open Text

structure Flag where
  name : String
  bit : Nat
  description : String
  deriving DecidableEq, Repr

def flags : List Flag := [
  ⟨"Prop_ReadOnly", 1, "Property is read-only in the editor"⟩,
  ⟨"Prop_Transient", 2,
    "Property content won't be saved to file, but still saves name, type and status"⟩,
  ⟨"Prop_Hidden", 4, "Property won't appear in the editor"⟩,
  ⟨"Prop_Output", 8, "Modified property doesn't touch its parent container"⟩,
  ⟨"Prop_NoRecompute", 16, "Modified property doesn't touch its container for recompute"⟩,
  ⟨"Prop_NoPersist", 32, "Property won't be saved to file at all"⟩]

def noFlag : String := "Prop_None"

def readOnlyBit : Nat := 1

def bitsOf? (name : String) : Option Nat :=
  if name == noFlag then some 0
  else (flags.find? (fun f => f.name == name)).map Flag.bit

def flagsOf (bits : Nat) : List Flag := flags.filter fun f => f.bit &&& bits != 0

def flagParts (written : String) : List String :=
  let bare := replace (replace (replace (replace (replace written "\n" "") " " "") "App::" "")
    "(" "") ")" ""
  split (dropStart (dropStart (dropStart bare "static_cast<PropertyType>") "PropertyType") "::") "|"

def lastAssigned (body : String) (place : Nat) (variableName : String) : Except Fault String := do
  let r ← Pattern.read {} (variableName ++ "\\s*=(?P<value>[^;]*);")
  match (r.matchesIn body.toList 0 place).getLast? with
  | some m => .ok (m.group (r.named "value"))
  | none => .error .noFlagVariable

def joinBits (bitsOf : String → Except Fault Nat) : (bits : Nat) → List String → Except Fault Nat
  | bits, [] => .ok bits
  | bits, part :: rest => do joinBits bitsOf (bits ||| (← bitsOf part)) rest

/-- The bits of written flags in a constructor body, as far as assignments before a place tell. -/
def bitsWithin (body : String) (place : Nat) : (depth : Nat) → String → Except Fault Nat
  | 0, _ => .error .tooDeep
  | depth + 1, written =>
    let bitsOf (part : String) : Except Fault Nat :=
      match bitsOf? part with
      | some found => .ok found
      | none => do bitsWithin body place depth (← lastAssigned body place part)
    joinBits bitsOf 0 (flagParts written)

def deepestFlags : Nat := 400

def bits (body : String) (place : Nat) (written : String) : Except Fault Nat :=
  bitsWithin body place deepestFlags written

end BindingStubs.Property

namespace BindingStubs.Property

open Gen

structure Surroundings where
  body : String := ""
  namespace_ : String := ""
  source : String := ""
  declarations : List String := []
  place : Nat := 0

/-- A property macro. Its group and documentation are missing if they are looked up by a variable
whose name is a pattern that catches nothing. -/
structure Macro where
  name : String
  group : Option String
  bits : Nat
  docs : Option String
  around : Surroundings

namespace Macro

def emptyTexts : List String := ["nullptr", "0", ""]

/-- A literal without its quotes; a sentence ends with a period. -/
def literalText (written : String) (isSentence : Bool) : String :=
  let s := Text.unquote written
  Documentation.prepare
    (if isSentence && !s.isEmpty && !Text.endsWith s "." then s ++ "." else s)

def argumentText (body written : String) (isSentence : Bool) : Except Fault (Option String) := do
  if emptyTexts.contains written then return some ""
  else if Text.startsWith written "\"" && Text.endsWith written "\"" then
    return some (literalText written isSentence)
  else if Text.contains written "group" then
    let r ← Pattern.read {} ("char\\s*\\*\\s*" ++ written ++ "\\s*=\\s*\\\"([^\"]+)\"")
    match r.search body with
    | some m => return m.group? 1
    | none => throw (.noTextVariable written)
  else throw (.unexpectedText written)

/-- The macro with given arguments: name and default, then group, flags and documentation. A
further argument is only allowed where flags are written, and then says nothing. -/
def make (arguments : List String) (around : Surroundings) : Except Fault Macro := do
  if arguments.length < 2 || 6 < arguments.length then throw .wrongType
  let written (index : Nat) : String := arguments.getD index ""
  let docs ← argumentText around.body (written 4) true
  let group ← argumentText around.body (written 2) false
  let bits ← if (written 3).isEmpty then
      if arguments.length == 6 then throw .badValue else pure 0
    else Property.bits around.body around.place (written 3)
  return { name := arguments.headD "", group, bits, docs, around }

def declarationPattern (name : String) : String :=
  "(?x)\n(\\w([\\w \\t]|::)*)\\s[\\w,\\s]*\\b" ++ name ++
    "\\b              # the searched property name\n" ++
    "[\\w,\\s]*            # there may be declared some other variables with same type\n" ++
    ";                   # declaration must be ended with ;\n"

def typeIn (r : Pattern.Regex) (namespace_ declaration : String) : Except Fault (Option String) :=
  match r.search declaration with
  | none => return none
  | some m => do
    let some written := m.group? 1 | throw .noSuchAttribute
    let bare := Text.replace (Text.replace written " " "") "\t" ""
    return some (if Text.contains bare "::" then bare else namespace_ ++ "::" ++ bare)

def firstType (r : Pattern.Regex) (namespace_ : String) : List String → Except Fault (Option String)
  | [] => return none
  | declaration :: rest => do
    match ← typeIn r namespace_ declaration with
    | some type => return some type
    | none => firstType r namespace_ rest

def typeId? (m : Macro) : Gen (Option String) := do
  let found ← if m.around.declarations.isEmpty then pure none
    else demand (do
      firstType (← Pattern.read {} (declarationPattern m.name)) m.around.namespace_
        m.around.declarations)
  if found.isNone then
    report .error .propertyTypes ("Cannot find property type for self.name=" ++ Text.quoted m.name)
  return found

def lineOf (before : String) (text : Option String) (after : String) : String :=
  match text with
  | some s => if s.isEmpty then "" else before ++ s ++ after
  | none => ""

def fullDocs (m : Macro) (typeId : Option String) : String :=
  "\n" ++
    String.join ((flagsOf m.bits).map fun f => "[" ++ f.name ++ "] " ++ f.description ++ ".\n") ++
    lineOf "Property group: " m.group ".\n" ++
    lineOf "Property TypeId: " typeId ".\n" ++
    lineOf "" m.docs "\n"

def isReadOnly (m : Macro) (typeId : Option String) : Bool :=
  m.bits &&& readOnlyBit != 0 || typeId == some "App::PropertyExpressionEngine"

end Macro

end BindingStubs.Property
