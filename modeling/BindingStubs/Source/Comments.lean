import BindingStubs.Text.Class

set_option autoImplicit false

/-!
# Comments of C++ texts

Each comment becomes one space.
-/

namespace BindingStubs.Source

/-- The text of a literal after its opening quote, through the closing one, and what follows. -/
def closeLiteral? (quote : Char) : List Char → Option (List Char × List Char)
  | [] => none
  | '\\' :: c :: rest => (closeLiteral? quote rest).map fun (body, after) => ('\\' :: c :: body, after)
  | c :: rest =>
    if c == quote then some ([c], rest)
    else if c == '\\' then none
    else (closeLiteral? quote rest).map fun (body, after) => (c :: body, after)

def closeBlock? : List Char → Option (List Char)
  | [] => none
  | '*' :: '/' :: rest => some rest
  | _ :: rest => closeBlock? rest

def lineEnd : List Char → List Char
  | [] => []
  | c :: rest => if c == '\n' then c :: rest else lineEnd rest

theorem closeLiteral?_length (quote : Char) (cs body after : List Char)
    (h : closeLiteral? quote cs = some (body, after)) : after.length < cs.length := by
  fun_induction closeLiteral? quote cs generalizing body after with
  | case1 => simp at h
  | case2 c rest ih =>
    obtain ⟨⟨b, a⟩, hb, e⟩ := Option.map_eq_some_iff.1 h
    obtain ⟨-, rfl⟩ := Prod.mk.inj e
    have := ih b a hb
    simp only [List.length_cons]
    omega
  | case3 c rest _ hq =>
    obtain ⟨-, rfl⟩ := Prod.mk.inj (Option.some.inj h)
    simp
  | case4 c rest => simp at h
  | case5 c rest _ hq hs ih =>
    obtain ⟨⟨b, a⟩, hb, e⟩ := Option.map_eq_some_iff.1 h
    obtain ⟨-, rfl⟩ := Prod.mk.inj e
    have := ih b a hb
    simp only [List.length_cons]
    omega

theorem closeBlock?_length (cs after : List Char) (h : closeBlock? cs = some after) :
    after.length < cs.length := by
  fun_induction closeBlock? cs with
  | case1 => simp at h
  | case2 rest => obtain rfl := Option.some.inj h; simp only [List.length_cons]; omega
  | case3 c rest _ ih => have := ih h; simp only [List.length_cons]; omega

theorem lineEnd_length (cs : List Char) : (lineEnd cs).length ≤ cs.length := by
  induction cs with
  | nil => simp [lineEnd]
  | cons c rest ih => unfold lineEnd; split <;> simp only [List.length_cons] <;> omega

def isQuote (c : Char) : Bool := c == '\'' || c == '"'

def stripComments : List Char → List Char
  | [] => []
  | '/' :: '/' :: rest => ' ' :: stripComments (lineEnd rest)
  | '/' :: '*' :: rest =>
    match _h : closeBlock? rest with
    | some after => ' ' :: stripComments after
    | none => '/' :: stripComments ('*' :: rest)
  | c :: rest =>
    if isQuote c then
      match _h : closeLiteral? c rest with
      | some (body, after) => c :: body ++ stripComments after
      | none => c :: stripComments rest
    else c :: stripComments rest
termination_by cs => cs.length
decreasing_by
  all_goals simp only [List.length_cons]
  · have := lineEnd_length rest; omega
  · have := closeBlock?_length rest after _h; omega
  · omega
  · have := closeLiteral?_length c rest body after _h; omega
  · omega
  · omega

def withoutComments (s : String) : String := String.ofList (stripComments s.toList)

end BindingStubs.Source
