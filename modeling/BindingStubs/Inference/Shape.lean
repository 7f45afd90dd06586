import BindingStubs.Text.Words

set_option autoImplicit false

/-!
# Shapes of expressions

What the text of a C++ expression says about its type.
-/

namespace BindingStubs.Inference

open Text

inductive Shape where
  | anything
  /-- A null literal, which is no result at all. -/
  | null
  | known (type : String)
  | owner
  | like (text : String)
  | tupleOfArguments
  | packedTuple
  | listLike (text : String)
  | sceneNode
  | widget
  | instanceOf (text : String)
  | builtValue
  | firstArgument
  | className
  | variableName
  | unrecognised
  deriving DecidableEq, Repr

def shapeByStart? (rules : List (String × Shape)) (s : String) : Option Shape :=
  (rules.find? (fun rule => startsWith s rule.1)).map Prod.snd

def nullTexts : List String := ["0", "-1", "NULL", "nullptr", "0L"]

def noneTexts : List String := ["Py_None", "Py::None()", "Py_Return"]

def simpleStarts : List (String × Shape) := [
  ("(GetApplication().openDocument(", .known "FreeCAD.Document"),
  ("Py::Boolean", .known "bool"), ("PyBool_From", .known "bool"), ("Py::True", .known "bool"),
  ("Py::False", .known "bool"),
  ("Py::Long", .known "int"), ("PyLong_From", .known "int"), ("Py::Int", .known "int"),
  ("PyInt_From", .known "int"), ("PYINT_FROMLONG", .known "int"), ("int", .known "int"),
  ("Py::Float", .known "float"), ("PyFloat_From", .known "float"),
  ("Py::String", .known "str"), ("PyString_From", .known "str"), ("PyUnicode_From", .known "str"),
  ("Py::Char", .known "str"), ("PyUnicode_DecodeUTF8", .known "str"),
  ("PYSTRING_FROMSTRING", .known "str"), ("QString", .known "str")]

def containerStarts : List (String × Shape) := [
  ("PyTuple_Pack", .packedTuple),
  ("Py::Tuple", .known "tuple"), ("PyTuple_New", .known "tuple"),
  ("Py::List", .known "list"), ("PyList_New", .known "list"),
  ("Py::Dict", .known "dict"), ("PyDict_New", .known "dict"),
  ("Py::Callable", .known "typing.Callable"),
  ("Py::BoundingBox", .known "FreeCAD.BoundBox"),
  ("Py::Matrix", .known "FreeCAD.Matrix"),
  ("Py::Rotation", .known "FreeCAD.Rotation"),
  ("Py::Placement", .known "FreeCAD.Placement"),
  ("Py::Vector2d", .known "FreeCAD.Vector2d"),
  ("Base::Vector2dPy::create(", .known "FreeCAD.Vector2d"),
  ("Py::Vector", .known "FreeCAD.Vector"),
  ("shape2pyshape", .known "Part.Shape"), ("Part::shape2pyshape", .known "Part.Shape")]

def wrapperStarts : List (String × Shape) := [
  ("Base::Interpreter().createSWIGPointerObj(", .sceneNode),
  ("MainWindowPy::createWrapper", .known "FreeCADGui.MainWindowPy"),
  ("wrap.fromQObject(", .known "qtpy.QtCore.QObject"),
  ("wrap.fromQWidget(", .widget),
  ("wrap.fromQIcon(", .known "qtpy.QtGui.QIcon"),
  ("PyRun_String", .anything)]

def shapesStart : String := "getShapes<"

def wrappedObject (s : String) : String :=
  let bare := dropEnd (dropEnd (dropEnd (dropEnd s "getPyObject()") ".") "->") ")"
  ((cutLast? bare "(").map Prod.snd).getD bare

def isClassName (s : String) : Bool :=
  endsWith s "Py" && isIdentifier s && (s.toList.head?.map isUpper).getD false

def otherShape (literal : Bool) (s : String) : Shape :=
  if startsWith s "new " || startsWith s "Py::asObject(new " then .instanceOf s
  else if isClassName s then .instanceOf s
  else if endsWith s "->getPyObject()" || endsWith s ".getPyObject()" then .like (wrappedObject s)
  else if startsWith s "Py_BuildValue(\"" then .builtValue
  else if contains s "Py_True" || contains s "Py_False" then .known "bool"
  else if startsWith s "Py::asObject(" || startsWith s "Py::Object(" ||
      startsWith s "createPyObject(" then .firstArgument
  else if literal then
    if (split s "::").all isIdentifier then .className else .anything
  else if isIdentifier s then .variableName
  else if startsWith s "(" && endsWith s ")" then .like (dropEnd (dropStart s "(") ")")
  else if contains s "==" then .known "bool"
  else .unrecognised

def shape (literal : Bool) (s : String) : Shape :=
  if s.isEmpty then .anything
  else if s == "Py::Object()" then .known "object"
  else if noneTexts.contains s then .known "None"
  else if nullTexts.contains s then if literal then .anything else .null
  else if s == "type->tp_new(type, this, nullptr)" then .like "type"
  else if s == "this->GetType()" || s == "IncRef()" then .owner
  else if endsWith s "->copyPyObject()" then .like (dropEnd s "->copyPyObject()")
  else if s == "getDocumentObjectPtr()" then .known "FreeCAD.DocumentObject"
  else match shapeByStart? simpleStarts s with
  | some found => found
  | none =>
  if endsWith s "->c_str()" then .known "str"
  else if startsWith s "PyByteArray_From" then .known "bytes"
  else if startsWith s "Py::TupleN" then if literal then .known "tuple" else .tupleOfArguments
  else match shapeByStart? containerStarts s with
  | some found => found
  | none =>
  if startsWith s shapesStart then .listLike (before (dropStart s shapesStart) ">")
  else match shapeByStart? wrapperStarts s with
  | some found => found
  | none => otherShape literal s

/-- A reference handed out is worth what it refers to. -/
def dereference (s : String) : String :=
  if (startsWith s "new_reference_to(" || startsWith s "Py::new_reference_to(") && endsWith s ")"
  then trim (dropEnd (dropStart (dropStart s "Py::") "new_reference_to(") ")")
  else s

/-- An expression without outer blanks, references, constness and pointer marks. -/
def bareExpression (s : String) : String :=
  let front := trim (dropStart (trim (dropStart (dereference (trim s)) "const")) "*")
  trim (dropEnd (trim (dropEnd front "*")) "&")

end BindingStubs.Inference
