import BindingStubs.Fault

set_option autoImplicit false

/-! # Words with a fixed meaning -/

namespace BindingStubs.Text

def yesWords : List String := ["y", "yes", "t", "true", "on", "1"]

def noWords : List String := ["n", "no", "f", "false", "off", "0", "none"]

def toBool (word : String) : Except Fault Bool :=
  let lower := lowerAscii word
  if yesWords.contains lower then .ok true
  else if noWords.contains lower then .ok false
  else .error (.notABoolean word)

def unquote (s : String) : String := dropEnd (dropStart (trim s) "\"") "\""

inductive Affix where
  | start
  | inside
  | stop
  deriving DecidableEq, Repr

def Affix.holds (affix : Affix) (s part : String) : Bool :=
  match affix with
  | .start => startsWith s part
  | .inside => contains s part
  | .stop => endsWith s part

end BindingStubs.Text
