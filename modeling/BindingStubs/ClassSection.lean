import BindingStubs.Inference.Variable

set_option autoImplicit false

/-! # Sections of classes -/

namespace BindingStubs

inductive SectionKind where
  | plain
  | signals
  | slots
  deriving DecidableEq, Repr

structure ClassSection where
  kind : SectionKind
  head : String
  body : String
  owner : Option String := none

namespace ClassSection

def headPattern : Pattern.Regex :=
  Pattern.fixed
    ("(((public|protected|private)\\s+)?(?P<qt>Q_SLOTS|Q_SIGNALS)\\s*:)|" ++
      "((public|protected|private)\\s*:)")

def kindOf (head : String) : SectionKind :=
  if Text.contains head "Q_SIGNALS" then .signals
  else if Text.contains head "Q_SLOT" then .slots
  else .plain

def sectionsFrom (classBody : List Char) : List Pattern.Match → List ClassSection
  | [] => []
  | m :: rest =>
    let stop := (rest.head?.map (·.start)).getD classBody.length
    { kind := kindOf m.whole
      head := m.whole
      body := String.ofList (Chars.trim (Chars.slice classBody m.stop stop)) } ::
      sectionsFrom classBody rest

def sectionsIn (classBody : String) : List ClassSection :=
  sectionsFrom classBody.toList (headPattern.allMatches classBody)

def assign (s : ClassSection) (owner : String) : Except Fault ClassSection :=
  match s.owner with
  | none => .ok { s with owner := some owner }
  | some _ => .error (.sectionHasClass s.head)

def ownerName (s : ClassSection) : Except Fault String :=
  match s.owner with
  | some owner => .ok owner
  | none => .error (.sectionWithoutClass s.head)

def declarations (s : ClassSection) : List String :=
  ((Source.bracePieces s.body 0 (some ';')).map Text.trim).filter fun d => !d.isEmpty

def definitionPattern (name : String) : String :=
  "class\\s+(?:\\w+\\s+)?\n" ++ name ++ "\\s*      # name or alias in a single class\n" ++
    "[^\x7b]*              # optional inheritance\n\x7b                  # class body block\n"

def ofClass (name content : String) : Except Fault (List ClassSection) := do
  let r ← Pattern.read { spaced := true } (definitionPattern name)
  match r.search content with
  | none => .error (.noClass name)
  | some m => (sectionsIn ((Source.bracePieces content m.stop none).headD "")).mapM (·.assign name)

end ClassSection

structure Signal where
  className : String
  name : String
  cppTypes : List String
  types : List TypeExpr
  needed : NameSet

namespace Signal

open Gen

def literalTypes : List String → Gen (List TypeExpr)
  | [] => return []
  | s :: rest => do
    let found ← Inference.expressionType (.make "" "" "") s 0 true
    return found :: (← literalTypes rest)

def ofDeclaration (className declaration : String) : Gen Signal := do
  let cppTypes ← demand (Source.callArguments declaration none)
  let (types, needed) ← apart (element (literalTypes cppTypes))
  let front := Text.before declaration "("
  return {
    className, cppTypes, types, needed
    name := ((Text.cutLast? front " ").map Prod.snd).getD front }

def protocolName (s : Signal) (count : Nat) : String :=
  "__" ++ s.className ++ "_" ++ s.name ++ "_" ++ toString count

/-- The parameters of a slot that takes the first `count` arguments. -/
def slotParameters (s : Signal) (count : Nat) : List String :=
  let taken := (s.types.take count).zipIdx.map fun (t, i) => "a" ++ toString i ++ ": " ++ t.shown
  if taken.isEmpty then ["self"] else "self" :: taken ++ ["/"]

def protocol (s : Signal) (count : Nat) : String :=
  "class " ++ s.protocolName count ++ "(typing.Protocol):\n    def __call__(" ++
    Text.join ", " (s.slotParameters count) ++ "): ..."

/-- The member that stands for the signal; a slot may leave trailing arguments out. -/
def text (s : Signal) : Gen String := do
  needAll s.needed.toList
  need "typing"
  need "FreeCADTemplates.qt_types as qt"
  let counts := List.range (s.types.length + 1)
  needAll (counts.map s.protocol)
  return s.name ++ ": typing.ClassVar[qt.pyqtSignal[" ++
    Text.join " | " (counts.map s.protocolName) ++ "]]"

end Signal

end BindingStubs
