import BindingStubs.Session

set_option autoImplicit false

/-! # Calls that parse arguments -/

namespace BindingStubs.Format

open Gen

/-- What is done with the arguments: taken by position, or also by keyword. -/
structure ParseStyle where
  formatIndex : Nat
  firstIndex : Nat
  byKeyword : Bool

def positionalStyle : ParseStyle := { formatIndex := 1, firstIndex := 2, byKeyword := false }

def keywordStyle : ParseStyle := { formatIndex := 2, firstIndex := 4, byKeyword := true }

structure ParseCall where
  text : String
  arguments : List String
  format : String
  keywords : List String
  style : ParseStyle
  declarations : String
  /-- The number of the first argument that gets a made-up name. -/
  firstNumber : Int
  path : Path

namespace ParseCall

def described (c : ParseCall) : String := "funCall=" ++ c.text ++ ", xml=" ++ c.path.text

def bareArgument (s : String) : String :=
  let s := Text.trim (Text.dropStart s "&")
  if Text.startsWith s "(" && Text.endsWith s ")" then Text.inner s else s

def argumentsOf (call : String) : List String :=
  let squeezed := Text.squeeze call
  let start := ((Chars.index? squeezed.toList ['(']).map (· + 1)).getD 0
  (Source.commaPieces squeezed start).map bareArgument

def stringPattern : Pattern.Regex :=
  Pattern.fixed "([\"'])(?=(?P<text>.*?(?!\\\\\\1)\\1))(?P=text)"

def formatOf (argument : String) : String :=
  String.join ((stringPattern.allMatches argument).map fun m => Text.unquote m.whole)

def macroNames : List String := ["PARAM_REF", "PARAM_FARG", "AREA_PARAMS_OPCODE"]

def withoutMacros (call : String) (arguments : List String) (formatIndex : Nat) : List String :=
  if Text.contains call "PARAM_REF(" then
    arguments.take (formatIndex + 1) ++
      (arguments.drop (formatIndex + 1)).filter fun a =>
        macroNames.all fun name => !Text.contains a name
  else arguments

def keywordsIn (variableName declarations : String) : Except Fault (List String) := do
  let r ← Pattern.read {} (variableName ++ "\\s*\\[\\s*]\\s*=\\s*\x7b((?:.|\\s)*?)\x7d")
  match (r.allMatches declarations).getLast? with
  | none => return []
  | some m =>
    if r.captures != 1 then throw .noSuchAttribute
    let names := Source.commaPieces (Text.squeeze (m.group 1))
    return (names.filter fun s => Text.startsWith s "\"" && Text.endsWith s "\"").map Text.inner

def make (path : Path) (body : String) (start : Nat) (style : ParseStyle) (firstNumber : Int) :
    Except Fault ParseCall := do
  let text := Source.callFrom body start
  let raw := argumentsOf text
  let some written := raw[style.formatIndex]? | throw .outOfRange
  let format := formatOf written
  let arguments := withoutMacros text (raw.set style.formatIndex format) style.formatIndex
  let declarations := Text.first body start
  let keywords ← if style.byKeyword then do
      let some variableName := arguments[style.formatIndex + 1]? | throw .outOfRange
      keywordsIn variableName declarations
    else pure []
  if arguments.length < style.firstIndex then throw .tooFewArguments
  return { text, arguments, format, keywords, style, declarations, firstNumber, path }

def startsWithMarker (code : String) : Bool :=
  code == "O!" || code == "O&" || Text.startsWith code "e"

def receiver? (c : ParseCall) (code : String) (index : Nat) : Gen (Option String) := do
  let index := if startsWithMarker code then index + 1 else index
  match c.arguments[index]? with
  | none =>
    report .error .calls ("Too few arguments for " ++ c.described)
    return none
  | some name => return if Text.isAlnumText name then some name else none

def madeUpName (c : ParseCall) (parameterIndex : Nat) : String :=
  "arg" ++ toString (c.firstNumber + (parameterIndex : Int))

def parameterName (c : ParseCall) (code : String) (index parameterIndex : Nat) : Gen String := do
  match if c.style.byKeyword then c.keywords[parameterIndex]? else none with
  | some name => return name
  | none =>
    if c.style.byKeyword then
      report .error .calls
        ("Too few kw arguments for curFormat=" ++ Text.quoted code ++ ", " ++ c.described)
    match ← c.receiver? code index with
    | some name => return name
    | none => return c.madeUpName parameterIndex

end ParseCall

end BindingStubs.Format
