import BindingStubs.Literal.Reader

set_option autoImplicit false

/-!
# Values accepted as defaults

A text is accepted if it names something that is always available in Python 3.11, or if it is a
literal there. The truth values of C++ are spelled anew, and the suffixes `f` and `l` of C++ numbers
are taken off until what is left is accepted.
-/

namespace BindingStubs.Literal

def builtinClasses : List String := [
  "bool", "memoryview", "bytearray", "bytes", "classmethod", "complex", "dict", "enumerate",
  "filter", "float", "frozenset", "property", "int", "list", "map", "object", "range",
  "reversed", "set", "slice", "staticmethod", "str", "super", "tuple", "type", "zip",
  "BaseException", "BaseExceptionGroup", "Exception", "GeneratorExit", "KeyboardInterrupt",
  "SystemExit", "ArithmeticError", "AssertionError", "AttributeError", "BufferError", "EOFError",
  "ImportError", "LookupError", "MemoryError", "NameError", "OSError", "ReferenceError",
  "RuntimeError", "StopAsyncIteration", "StopIteration", "SyntaxError", "SystemError",
  "TypeError", "ValueError", "Warning", "FloatingPointError", "OverflowError",
  "ZeroDivisionError", "BytesWarning", "DeprecationWarning", "EncodingWarning", "FutureWarning",
  "ImportWarning", "PendingDeprecationWarning", "ResourceWarning", "RuntimeWarning",
  "SyntaxWarning", "UnicodeWarning", "UserWarning", "BlockingIOError", "ChildProcessError",
  "ConnectionError", "FileExistsError", "FileNotFoundError", "InterruptedError",
  "IsADirectoryError", "NotADirectoryError", "PermissionError", "ProcessLookupError",
  "TimeoutError", "IndentationError", "IndexError", "KeyError", "ModuleNotFoundError",
  "NotImplementedError", "RecursionError", "UnboundLocalError", "UnicodeError",
  "BrokenPipeError", "ConnectionAbortedError", "ConnectionRefusedError", "ConnectionResetError",
  "TabError", "UnicodeDecodeError", "UnicodeEncodeError", "UnicodeTranslateError",
  "ExceptionGroup"]

def builtinFunctions : List String := [
  "__build_class__", "__import__", "abs", "all", "any", "ascii", "bin", "breakpoint", "callable",
  "chr", "compile", "delattr", "dir", "divmod", "eval", "exec", "format", "getattr", "globals",
  "hasattr", "hash", "hex", "id", "input", "isinstance", "issubclass", "iter", "aiter", "len",
  "locals", "max", "min", "next", "anext", "oct", "ord", "pow", "print", "repr", "round",
  "setattr", "sorted", "sum", "vars", "open"]

/-- Other names that are always available, with the form in which each is shown. The notices that
`copyright` and `credits` show are left out. -/
def builtinValues : List (String × String) := [
  ("__name__", "'builtins'"),
  ("__doc__", "\"Built-in functions, types, exceptions, and other objects.\\n\\nThis mod" ++
    "ule provides direct access to all 'built-in'\\nidentifiers of Python; f" ++
    "or example, builtins.len is\\nthe full name for the built-in function l" ++
    "en().\\n\\nThis module is not normally accessed explicitly by most\\nappl" ++
    "ications, but can be useful in modules that provide\\nobjects with the " ++
    "same name as a built-in value, but in\\nwhich the built-in of that name" ++
    " is also needed.\""),
  ("__package__", "''"),
  ("__loader__", "<class '_frozen_importlib.BuiltinImporter'>"),
  ("__spec__", "ModuleSpec(name='builtins', loader=<class '_frozen_importlib.BuiltinIm" ++
    "porter'>, origin='built-in')"),
  ("None", "None"),
  ("Ellipsis", "Ellipsis"),
  ("NotImplemented", "NotImplemented"),
  ("False", "False"),
  ("True", "True"),
  ("__debug__", "True"),
  ("EnvironmentError", "<class 'OSError'>"),
  ("IOError", "<class 'OSError'>"),
  ("exit", "Use exit() or Ctrl-D (i.e. EOF) to exit"),
  ("quit", "Use quit() or Ctrl-D (i.e. EOF) to exit"),
  ("license", "Type license() to see the full license text"),
  ("help", "Type help() for interactive help, or help(object) for help about object."),
  ("copyright", ""),
  ("credits", "")]

def builtin? (name : String) : Option Literal :=
  if builtinClasses.contains name then some (.builtin ("<class '" ++ name ++ "'>"))
  else if builtinFunctions.contains name then
    some (.builtin ("<built-in function " ++ name ++ ">"))
  else (builtinValues.find? (fun entry => entry.1 == name)).map fun entry => .builtin entry.2

/-- What a check of a text found: the accepted spelling, and the spellings that looked like
literals but cannot be evaluated. A check may end early because too much would have to be taken off. -/
structure Acceptance where
  spelling : Option String
  broken : List String := []
  endless : Bool := false

def truthSpelling? (s : String) : Option String :=
  if s == "true" then some "True" else if s == "false" then some "False" else Option.none

def isNumberSuffix (c : Char) : Bool := c == 'f' || c == 'F' || c == 'l' || c == 'L'

def mostSuffixes : Nat := 985

/-- Checks a text given backwards, so that suffixes come off its head, at most as many as there is
room for. -/
def acceptBackwards : (room : Nat) → List Char → Acceptance
  | _, [] => { spelling := if (read "").isOk then some "" else Option.none }
  | room, c :: rest =>
    let s := String.ofList (c :: rest).reverse
    if (builtin? s).isSome then { spelling := some s }
    else match truthSpelling? s with
      | some spelling => { spelling := some spelling }
      | Option.none =>
        match read s with
        | .ok _ => { spelling := some s }
        | .error refusal =>
          let broken := if refusal == .changeable then [s] else []
          if !isNumberSuffix c then { spelling := Option.none, broken := broken }
          else match room with
            | 0 => { spelling := Option.none, broken := broken, endless := true }
            | room + 1 =>
              let found := acceptBackwards room rest
              { found with broken := broken ++ found.broken }

def accept (s : String) : Acceptance := acceptBackwards mostSuffixes s.toList.reverse

def spelling? (s : String) : Except Fault (Option String) :=
  let found := accept s
  if found.endless then .error .tooDeep else .ok found.spelling

/-- The value of an accepted text. A name that is only reached by taking suffixes off has no
value. -/
def value (s spelling : String) : Except Refusal Literal :=
  match builtin? s with
  | some v => .ok v
  | Option.none => read spelling

end BindingStubs.Literal
