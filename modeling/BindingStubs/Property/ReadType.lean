import BindingStubs.Session

set_option autoImplicit false

/-!
# Types of properties when read

The Python type that a property gives, by its type id.
-/

namespace BindingStubs.Property

open Gen
open Text (listed)

def readTypes : List (List String × String) := [
  (listed "App::Property(Integer(,Constraint,)Enumeration,Percent,)", "int"),
  (listed "App::PropertyBool(,List,)", "bool"),
  (listed "App::Property(Float(,Constraint,)Precision,FloatList,)", "float"),
  (listed "App::Property(Quantity,Distance,Frequency,Speed,Acceleration,Pressure,Stiffness,Force,
VacuumPermittivity,QuantityConstraint,Length,Area,Volume,Angle,)",
    "FreeCAD.Quantity"),
  (listed "App::Property(PersistentObject,PythonObject,)", "object"),
  (["App::PropertyMap"], "dict[str, str]"),
  (listed "App::Property(String,UUID,Font,File,Path,FileIncluded,StringList,)", "str"),
  (listed "App::Property(Link(,Child,Global,Hidden,)PlacementLink,)",
    "FreeCAD.DocumentObject | None"),
  (listed "App::PropertyLinkSub(,Child,Global,Hidden,)",
    "tuple[FreeCAD.DocumentObject, list[str]] | None"),
  (listed "App::PropertyLinkList(,Child,Global,Hidden,)", "FreeCAD.DocumentObject | None"),
  (listed "App::PropertyLinkSubList(,Child,Global,Hidden,)",
    "tuple[FreeCAD.DocumentObject, list[str]]"),
  (["App::PropertyXLink"],
    "None | FreeCAD.DocumentObject | tuple[FreeCAD.DocumentObject, str | list[str]]"),
  (["App::PropertyXLinkSub"], "None | tuple[FreeCAD.DocumentObject | list[str]]"),
  (listed "App::PropertyXLink(SubList,List,)", "tuple[FreeCAD.DocumentObject, list[str]]"),
  (["App::PropertyMatrix"], "FreeCAD.Matrix"),
  (listed "App::PropertyColor(,List,)", "tuple[float, float, float, float]"),
  (["App::PropertyMaterial"], "FreeCAD.Material"),
  (listed "App::Property(Vector(,Distance,)Position,Direction,VectorList,)", "FreeCAD.Vector"),
  (["App::PropertyPlacement"], "FreeCAD.Placement"),
  (["App::PropertyMaterialList"], "tuple[FreeCAD.Material, ...]"),
  (["App::PropertyExpressionEngine"], "list[tuple[str, str]]"),
  (["Mesh::PropertyMeshKernel"], "MeshModule.Mesh"),
  (["Part::PropertyGeometryList"], "Part.Geometry"),
  (["Part::PropertyPartShape"], "Part.Shape"),
  (["Spreadsheet::PropertySheet"], "Spreadsheet.Sheet"),
  (["Spreadsheet::PropertyColumnWidths"], "Spreadsheet.PropertyColumnWidths"),
  (["Spreadsheet::PropertyRowHeights"], "Spreadsheet.PropertyRowHeights"),
  (["TechDraw::PropertyCosmeticVertexList"], "TechDraw.CosmeticVertex"),
  (["TechDraw::PropertyCosmeticEdgeList"], "TechDraw.CosmeticEdge"),
  (["TechDraw::PropertyCenterLineList"], "TechDraw.CenterLine"),
  (["TechDraw::PropertyGeomFormatList"], "TechDraw.GeomFormat"),
  (["Sketcher::PropertyConstraintList"], "Sketcher.Constraint")]

def findUnder? {α : Type} (table : List (List String × α)) (key : String) : Option α :=
  (table.find? (fun entry => entry.1.contains key)).map Prod.snd

def isListType (typeId : String) : Bool := Text.contains typeId "List"

def readContainer (typeId item : String) : String :=
  if typeId == "App::PropertyBoolList" then "tuple[" ++ item ++ ", ...]"
  else if typeId == "App::PropertyXLinkList" then
    "list[" ++ item ++ "] | list[FreeCAD.DocumentObject]"
  else if isListType typeId then "list[" ++ item ++ "]"
  else item

def readType (typeId : Option String) : Gen String :=
  match typeId with
  | none => return ""
  | some id =>
    match findUnder? readTypes id with
    | some item => return readContainer id (Naming.imported item).1
    | none => do
      if !(← get).unreadable.contains id then
        modify fun s => { s with unreadable := id :: s.unreadable }
        report .error .propertyGetters ("Missing getter case for typeId=" ++ Text.quoted id)
      return ""

end BindingStubs.Property
