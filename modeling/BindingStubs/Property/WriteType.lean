import BindingStubs.Property.Macro
import BindingStubs.Property.ReadType

set_option autoImplicit false

/-! # Types of properties when written -/

namespace BindingStubs.Property

inductive TypeAlias where
  | named (name definition : String) (dependencies : List TypeAlias)
  /-- A variable that stands for any type. -/
  | free (name : String) (dependencies : List TypeAlias)

namespace TypeAlias

def name : TypeAlias → String
  | named name _ _ => name
  | free name _ => name

def dependencies : TypeAlias → List TypeAlias
  | named _ _ dependencies => dependencies
  | free _ dependencies => dependencies

def declaration : TypeAlias → String
  | named name definition _ => name ++ ": typing.TypeAlias = " ++ definition
  | free name _ => name ++ " = typing.TypeVar(\"" ++ name ++ "\")"

mutual

def declarations : TypeAlias → List String
  | named name definition dependencies =>
    declarationsOf dependencies ++ [declaration (named name definition dependencies)]
  | free name dependencies =>
    declarationsOf dependencies ++ [declaration (free name dependencies)]

def declarationsOf : List TypeAlias → List String
  | [] => []
  | a :: rest => declarations a ++ declarationsOf rest

end

def lines (aliases : List TypeAlias) : String :=
  String.join ((declarationsOf aliases).map fun line => line ++ "\n")

def docAndText : TypeAlias :=
  .named "DocAndStr_t" "tuple[FreeCAD.DocumentObject, str | typing.Sequence[str]]" []

def linkSub : TypeAlias :=
  .named "LinkSub_t" "FreeCAD.DocumentObject | None | tuple[()] | DocAndStr_t" [docAndText]

def linkList : TypeAlias := .named "LinkList_t" "None | FreeCAD.DocumentObject" []

def sequenceDoc : TypeAlias :=
  .named "SequenceDoc_t" "tuple[FreeCAD.DocumentObject, str | typing.Sequence[str]]" []

def sequenceNone : TypeAlias := .named "SequenceNone_t" "tuple[None, typing.Any]" []

def externalLink : TypeAlias :=
  .named "PropX_t" "None | FreeCAD.DocumentObject | SequenceNone_t | SequenceDoc_t"
    [sequenceNone, sequenceDoc]

def linkSubList : TypeAlias :=
  .named "LinkSubList_t" "typing.Sequence[SequenceDoc_t | FreeCAD.DocumentObject]" [sequenceDoc]

def textOrFile : TypeAlias := .named "StrIO_t" "str | bytes | io.IOBase" []

def anyItem : TypeAlias := .free "_T" []

def tupleOf (name : String) (count : Nat) : TypeAlias :=
  .named name ("tuple[" ++ Text.join ", " (List.replicate count "_T") ++ "]") [anyItem]

def triple : TypeAlias := tupleOf "Triple_t" 3

def quadruple : TypeAlias := tupleOf "Quadruple_t" 4

def sexdecuple : TypeAlias := tupleOf "Sexdecuple_t" 16

end TypeAlias

open Gen
open Text (listed)

/-- What a property takes: aliases, the type of a single value, and whether that is all. -/
structure Written where
  item : String
  aliases : List TypeAlias := []
  isWhole : Bool := false

def quantityText : String := "str | float | FreeCAD.Quantity"

def writeTypes : List (List String × Written) := [
  (listed "App::Property(Percent,Integer(,Constraint,))", { item := "int" }),
  (listed "App::PropertyBool(,List,)", { item := "int | bool" }),
  (listed "App::Property(Float(,List,Constraint,)Precision,)", { item := "float" }),
  (listed "App::Property(Quantity,Distance,Frequency,Speed,Acceleration,Pressure,Force,
VacuumPermittivity,)",
    { item := quantityText ++ " | FreeCAD.Unit" }),
  (listed "App::Property(QuantityConstraint,Length,Area,Volume,Angle,)",
    { item := quantityText, isWhole := true }),
  (["App::PropertyPythonObject"], { item := "object" }),
  (["App::PropertyMap"], { item := "dict[str, str]", isWhole := true }),
  (listed "App::Property(PersistentObject,UUID,Font,File,String(,List,)Path,)", { item := "str" }),
  (listed "App::Property(Link(,Child,Global,Hidden,)PlacementLink,)",
    { item := "FreeCAD.DocumentObject | None" }),
  (listed "App::PropertyLinkSub(,Child,Global,Hidden,)",
    { item := "LinkSub_t", aliases := [.linkSub] }),
  (listed "App::PropertyLinkList(,Child,Global,Hidden,)",
    { item := "LinkList_t", aliases := [.linkList], isWhole := true }),
  (listed "App::PropertyLinkSubList(,Child,Global,Hidden,)",
    { item := "LinkSub_t | LinkList_t | LinkSubList_t",
      aliases := [.linkSub, .linkList, .linkSubList], isWhole := true }),
  (listed "App::PropertyXLink(,Sub(,List,)List,)",
    { item := "PropX_t", aliases := [.externalLink] }),
  (["App::PropertyMatrix"],
    { item := "FreeCAD.Matrix | Sexdecuple_t[float]", aliases := [.sexdecuple] }),
  (listed "App::Property(Vector(,Distance,)Position,Direction,VectorList,)",
    { item := "FreeCAD.Vector | Triple_t[float]", aliases := [.triple] }),
  (["App::PropertyPlacement"], { item := "FreeCAD.Matrix | FreeCAD.Placement" }),
  (listed "App::PropertyColor(,List,)",
    { item := "Triple_t[float] | Quadruple_t[float] | int", aliases := [.triple, .quadruple] }),
  (listed "App::PropertyMaterial(,List,)", { item := "FreeCAD.Material" }),
  (["App::PropertyFileIncluded"],
    { item := "StrIO_t | tuple[StrIO_t, StrIO_t]", aliases := [.textOrFile] }),
  (["App::PropertyExpressionEngine"], { item := "" }),
  (["Mesh::PropertyMeshKernel"], { item := "MeshModule.Mesh | list[list[float]]" }),
  (["Part::PropertyGeometryList"], { item := "Part.Geometry" }),
  (["Part::PropertyPartShape"], { item := "Part.Shape" }),
  (["Spreadsheet::PropertySheet"], { item := "Spreadsheet.Sheet" }),
  (listed "Spreadsheet::Property(ColumnWidths,RowHeights,)", { item := "" }),
  (["TechDraw::PropertyCosmeticVertexList"], { item := "TechDraw.CosmeticVertex" }),
  (["TechDraw::PropertyCosmeticEdgeList"], { item := "TechDraw.CosmeticEdge" }),
  (["TechDraw::PropertyCenterLineList"], { item := "TechDraw.CenterLine" }),
  (["TechDraw::PropertyGeomFormatList"], { item := "TechDraw.GeomFormat" }),
  (["Sketcher::PropertyConstraintList"], { item := "Sketcher.Constraint" })]

/-- The whole type after the declarations it needs. Lists take any iterable or items by index;
constrained values may come with their bounds. -/
def writtenText (typeId : String) (w : Written) : String :=
  let item := (Naming.imported w.item).1
  if w.isWhole then TypeAlias.lines w.aliases ++ item
  else if isListType typeId then
    TypeAlias.lines w.aliases ++ "typing.Iterable[" ++ item ++ "] | dict[int, " ++ item ++ "]"
  else if Text.contains typeId "Constraint" then
    TypeAlias.lines (w.aliases ++ [.quadruple]) ++ item ++ " | Quadruple_t[" ++ item ++ "]"
  else TypeAlias.lines w.aliases ++ item

def searchPasted (written : String) (texts : List String) : Except Fault (Option Pattern.Match) := do
  let r ← Pattern.read {} written
  return texts.findSome? r.search

def enumTexts (array : String) : List String :=
  ((Source.bracePieces array (Source.afterBrace array) (some ',')).map Text.unquote).dropLast

def enumType (m : Macro) : Gen String := do
  let around := m.around
  match ← demand (searchPasted (m.name ++ "\\.setEnums\\(\\s*(\\w+)\\s*\\)") [around.body]) with
  | none =>
    report .error .propertySetters ("Unknown enum values for self.namespace=" ++
      Text.quoted around.namespace_ ++ " self.group=" ++
      ((m.group.map Text.quoted).getD "None") ++ " self.name=" ++ Text.quoted m.name)
    return ""
  | some found =>
    let array := (found.group? 1).getD "None" ++ "\\s*\\[\\s*]\\s*=\\s*([^;]+)"
    match ← demand (searchPasted array [around.body, around.source]) with
    | none => throw .noEnumVariable
    | some values =>
      let some listed := values.group? 1 | throw .noSuchAttribute
      return "typing.Literal" ++ Text.quotedList (enumTexts listed)

def writeType (m : Macro) (typeId : Option String) : Gen String :=
  match typeId with
  | none => return ""
  | some id =>
    if id == "App::PropertyEnumeration" then enumType m
    else match findUnder? writeTypes id with
      | some w => return writtenText id w
      | none => do
        if !(← get).unwritable.contains id then
          modify fun s => { s with unwritable := id :: s.unwritable }
          report .error .propertySetters ("Missing setter case for typeId=" ++ Text.quoted id)
        return ""

end BindingStubs.Property
