import BindingStubs.OrderedSet
import BindingStubs.Text.Basic

set_option autoImplicit false

/-! # Log records -/

namespace BindingStubs

inductive LogLevel where
  /-- The text of a function body that could not be used. -/
  | code
  | debug
  | info
  | warning
  | error
  deriving DecidableEq, Repr

namespace LogLevel

def rank : LogLevel → Int
  | .code => 5
  | .debug => 10
  | .info => 20
  | .warning => 30
  | .error => 40

def label : LogLevel → String
  | .code => "CODE"
  | .debug => "DEBUG"
  | .info => "INFO"
  | .warning => "WARNING"
  | .error => "ERROR"

end LogLevel

inductive Reporter where
  | whole
  | literals
  | stems
  | calls
  | formats
  | signatures
  | returnTypes
  | exceptions
  | propertyTypes
  | propertyGetters
  | propertySetters
  | methods
  | cppMethods
  | cppClasses
  | xmlIncludes
  | xmlMethods
  | xmlAttributes
  | collectedValues
  deriving DecidableEq, Repr

namespace Reporter

def label : Reporter → String
  | .whole => "root"
  | .literals => "freecad_stub_gen.cpp_code.converters"
  | .stems => "freecad_stub_gen.module_namespace"
  | .calls => "freecad_stub_gen.generators.common.arguments_converter.function_conv"
  | .formats => "freecad_stub_gen.generators.common.arguments_converter.types_converter"
  | .signatures => "freecad_stub_gen.generators.common.annotation_parameter"
  | .returnTypes => "freecad_stub_gen.generators.common.return_type_converter.base"
  | .exceptions => "freecad_stub_gen.generators.common.return_type_converter.full"
  | .propertyTypes => "freecad_stub_gen.generators.common.gen_property.macro.base"
  | .propertyGetters => "freecad_stub_gen.generators.common.gen_property.macro.getter_type"
  | .propertySetters => "freecad_stub_gen.generators.common.gen_property.macro.setter_type"
  | .methods => "freecad_stub_gen.generators.common.gen_method"
  | .cppMethods => "freecad_stub_gen.generators.from_cpp.base"
  | .cppClasses => "freecad_stub_gen.generators.from_cpp.klass"
  | .xmlIncludes => "freecad_stub_gen.generators.from_xml.dynamic_property"
  | .xmlMethods => "freecad_stub_gen.generators.from_xml.method"
  | .xmlAttributes => "freecad_stub_gen.generators.from_xml.static_property"
  | .collectedValues => "freecad_stub_gen.debug_functions"

end Reporter

structure LogRecord where
  level : LogLevel
  reporter : Reporter
  text : String
  deriving DecidableEq, Repr

namespace LogRecord

def line (r : LogRecord) : String :=
  r.level.label ++ ":" ++ r.reporter.label ++ ":" ++ r.text ++ "\n"

def printed (least : Int) (records : List LogRecord) : String :=
  String.join ((records.filter fun r => least ≤ r.level.rank).map line)

end LogRecord

/-- What tells records apart when repetitions are left out: module, rank and text. -/
abbrev RecordKey := String × Int × String

def isNewEach : (seen : List RecordKey) → List RecordKey → List Bool
  | _, [] => []
  | seen, key :: rest =>
    if seen.contains key then false :: isNewEach seen rest
    else true :: isNewEach (key :: seen) rest

/-- Values collected by topic, topics and values in order of first occurrence. -/
structure Collection (α : Type) [DecidableEq α] where
  topics : List (String × OrderedSet α) := []

namespace Collection

variable {α : Type} [DecidableEq α]

def add (c : Collection α) (topic : String) (value : α) : Collection α :=
  if c.topics.any (fun entry => entry.1 == topic) then
    ⟨c.topics.map fun entry => if entry.1 == topic then (topic, entry.2.insert value) else entry⟩
  else ⟨c.topics ++ [(topic, OrderedSet.empty.insert value)]⟩

def states : Collection α → List (String × α) → List (Collection α)
  | _, [] => []
  | c, (topic, value) :: rest =>
    let c := c.add topic value
    c :: states c rest

def report (shown : α → String) (c : Collection α) : List LogRecord :=
  c.topics.flatMap fun (topic, values) =>
    { level := .debug, reporter := .collectedValues, text := "Values for " ++ topic ++ ":" } ::
      values.toList.map fun value =>
        { level := .debug, reporter := .collectedValues, text := " - `" ++ shown value ++ "`" }

end Collection

end BindingStubs
