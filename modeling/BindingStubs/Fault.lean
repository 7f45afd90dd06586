import BindingStubs.Text.Basic

set_option autoImplicit false

/-!
# Faults

Everything that can stop the generation of a stub, by cause.
-/

namespace BindingStubs

inductive FaultKind where
  | value
  | type
  | key
  | index
  | missingAttribute
  | unsupported
  | exhausted
  | interrupted
  | missingFile
  | lookup
  | unicode
  | unicodeOctet
  | directory
  | notDirectory
  | system
  | xml
  | pattern
  | overflow
  | nullResult
  | depth
  deriving DecidableEq, Repr

inductive Fault where
  | notABoolean (word : String)
  | badSeparator (separator : String)
  | noFileForStem (stem : String)
  | noModule (name : String)
  | noClass (name : String)
  | sectionWithoutClass (head : String)
  | sectionHasClass (head : String)
  | emptyModuleName
  | noException (className namespace_ : String)
  | unknownException (text : String)
  | unknownBuildUnit (rest : String)
  | notAnAlternative
  | unnamedExport
  | missingExport
  | mergeIncomplete
  | noTupleItems
  | noDictItems
  | mixedDictItems
  | unknownListItem
  | unexpectedWidgetCast
  | nullResult
  | tooFewArguments
  | onlyTypeAliases
  | noTextVariable (name : String)
  | unexpectedText (text : String)
  | noFlagVariable
  | noPropertyNamespace
  | noHeader
  | noEnumVariable
  | notAPointer
  | noSignature
  /-- Code that belongs to no class speaks of its own object. -/
  | noOwner
  | unknownQtClass
  | noTwin (path : String)
  | noInclude (path : String)
  | noCurrentElement
  | noAttributeBody
  | noAttributeType
  /-- Parameters that make no signature; `shown` lists them for the log. -/
  | signatureRefused (shown : String)
  | badParameter
  | badValue
  | wrongType
  | noSuchKey
  | outOfRange
  | noSuchAttribute
  | nothingLeft
  /-- A sequence that ran dry while another one was being produced. -/
  | sequenceBroken
  | noSuchFile
  | isDirectory
  | notADirectory
  | directoryTaken
  | malformedXml
  | unknownEncoding
  /-- An encoding that reads nothing. -/
  | undecodable
  | undecodableOctet
  | malformedPattern
  | tooLarge
  | tooDeep
  deriving DecidableEq, Repr

namespace Fault

def kind : Fault → FaultKind
  | notAnAlternative | mergeIncomplete | unexpectedWidgetCast => .unsupported
  | nullResult => .nullResult
  | noHeader | notAPointer | noSignature | noOwner | noTwin _ | noInclude _ | noCurrentElement
  | noAttributeBody | wrongType => .type
  | noSuchKey => .key
  | outOfRange => .index
  | noSuchAttribute => .missingAttribute
  | nothingLeft => .exhausted
  | sequenceBroken => .interrupted
  | noSuchFile => .missingFile
  | isDirectory => .directory
  | notADirectory => .notDirectory
  | directoryTaken => .system
  | malformedXml => .xml
  | unknownEncoding => .lookup
  | undecodable => .unicode
  | undecodableOctet => .unicodeOctet
  | malformedPattern => .pattern
  | tooLarge => .overflow
  | tooDeep => .depth
  | _ => .value

open Text in
/-- The message of a broken rule, its parts divided by a bar. -/
def message? : Fault → Option String
  | notABoolean word => some ("Unknown bool value: " ++ word)
  | badSeparator separator =>
    some ("Cannot use splitChar=" ++ quoted separator ++ " when generating expression")
  | noFileForStem stem => some ("There is no path for stem=" ++ quoted stem)
  | noModule name => some ("Cannot find module for " ++ name)
  | noClass name => some ("Cannot find class " ++ name)
  | sectionWithoutClass head => some ("Value cppClass is not initialized in " ++ head)
  | sectionHasClass head => some ("Value cppClass is already initialized in " ++ head)
  | noException className namespace_ =>
    some ("Cannot find exception: cppClass=" ++ quoted className ++ " cppNamespace=" ++
      quoted namespace_)
  | unknownException text => some ("Unknown exception cTypeExceptionText=" ++ quoted text)
  | unknownBuildUnit rest => some ("Unknown format string | " ++ rest)
  | noTupleItems => some "Cannot find inner type for tuple"
  | noDictItems => some "Cannot extract dict inner types."
  | mixedDictItems => some "Values in `TypedDict` are mixed with `dict`"
  | tooFewArguments => some "Invalid format - expected bigger size"
  | noTextVariable name => some ("Cannot find value for variable: " ++ name)
  | unexpectedText text => some text
  | noEnumVariable => some "Cannot find enum variable"
  | noSignature => some "Python signature not initialized"
  | unknownQtClass => some "Unknown qt class"
  | noTwin path => some ("'Twin' not found in " ++ path)
  | noInclude path => some ("`Include` not found in " ++ path)
  | emptyModuleName | notAnAlternative | unnamedExport | missingExport | mergeIncomplete
  | unknownListItem | unexpectedWidgetCast | nullResult | onlyTypeAliases | noFlagVariable
  | noPropertyNamespace | noHeader | notAPointer | noOwner | noCurrentElement
  | noAttributeBody | noAttributeType => some ""
  | signatureRefused _ | badParameter | badValue | wrongType | noSuchKey | outOfRange
  | noSuchAttribute | nothingLeft | sequenceBroken | noSuchFile | isDirectory | notADirectory
  | directoryTaken | malformedXml | unknownEncoding | undecodable | undecodableOctet
  | malformedPattern | tooLarge | tooDeep => none

def collect {α : Type} : List (Except Fault α) → Except Fault (List α)
  | [] => .ok []
  | item :: rest => do
    let a ← item
    return a :: (← collect rest)

def untilFault {α : Type} : List (Except Fault α) → List α × Option Fault
  | [] => ([], none)
  | .error f :: _ => ([], some f)
  | .ok a :: rest =>
    let (more, fault) := untilFault rest
    (a :: more, fault)

end Fault

end BindingStubs
