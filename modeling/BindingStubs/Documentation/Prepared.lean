import BindingStubs.Text.Basic

set_option autoImplicit false

/-! # Documentation texts -/

namespace BindingStubs.Documentation

open Text

def blanksThenQuote? : List Char → Option (List Char)
  | [] => none
  | c :: rest => if isBlank c then blanksThenQuote? rest else if c == '"' then some rest else none

theorem blanksThenQuote?_length (cs after : List Char) (h : blanksThenQuote? cs = some after) :
    after.length < cs.length := by
  induction cs with
  | nil => simp [blanksThenQuote?] at h
  | cons c rest ih =>
    unfold blanksThenQuote? at h
    split at h
    · have := ih h; simp only [List.length_cons]; omega
    · split at h
      · obtain rfl := Option.some.inj h; simp
      · simp at h

def joinLines : List Char → List Char
  | [] => []
  | '\\' :: 'n' :: '"' :: rest =>
    match _h : blanksThenQuote? rest with
    | some after => '\n' :: joinLines after
    | none => '\\' :: joinLines ('n' :: '"' :: rest)
  | c :: rest => c :: joinLines rest
termination_by cs => cs.length
decreasing_by
  all_goals simp only [List.length_cons]
  · have := blanksThenQuote?_length rest after _h; omega
  all_goals omega

def joinLiterals : List Char → List Char
  | [] => []
  | c :: rest =>
    if c == '"' then
      match _h : blanksThenQuote? rest with
      | some after => joinLiterals after
      | none => c :: joinLiterals rest
    else c :: joinLiterals rest
termination_by cs => cs.length
decreasing_by
  all_goals simp only [List.length_cons]
  · have := blanksThenQuote?_length rest after _h; omega
  all_goals omega

def resolveEscapes (cs : List Char) : List Char :=
  Chars.replace (Chars.replace cs ['\\', 'n'] ['\n']) ['\\', '"'] ['"']

def frame (cs : List Char) : List Char :=
  if cs.contains '\n' then
    let started := if cs.head? == some '\n' then cs else '\n' :: cs
    if Chars.endsWith started ['\n'] then started else started ++ ['\n']
  else cs

def prepareChars (cs : List Char) : List Char :=
  frame (Chars.trim (resolveEscapes (joinLiterals (joinLines cs))))

def prepare (s : String) : String := String.ofList (prepareChars s.toList)

def docstring (s : String) : String :=
  let prepared := prepare s
  if prepared.isEmpty then "" else "\"\"\"" ++ prepared ++ "\"\"\"\n"

def bodyOrEllipsis (s : String) : String :=
  let doc := docstring s
  if doc.isEmpty then " ...\n" else "\n" ++ indent doc

end BindingStubs.Documentation
