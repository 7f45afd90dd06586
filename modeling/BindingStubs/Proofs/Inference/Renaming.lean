import BindingStubs.Proofs.Inference.Finding
import BindingStubs.Proofs.Inference.Spelling
import BindingStubs.Proofs.Text.Replacing

set_option autoImplicit false

/-! # Renamed variables -/

namespace BindingStubs.Inference

open Gen Pattern Pattern.Template List

/-- A name that is neither a keyword of declarations nor starts like one. -/
structure IsDeclarable (name : List Char) : Prop extends IsWordName name where
  notConst : ¬ "const".toList <+: name
  notReturn : name ≠ "return".toList
  notElse : name ≠ "else".toList

def innerText (written : String) : String :=
  if Text.contains written "<" && Text.contains written ">" then
    ((Text.cutFirst? written "<").map fun cut => Text.before cut.2 ">").getD written
  else written

def bareText (inner : String) : String :=
  Text.trim (Text.dropEnd (Text.trim (Text.dropStart inner "const")) "*")

theorem declaredType?_eq (written : String) :
    declaredType? written =
      if written == "return" || written == "else" then none
      else if (bareText (innerText written)).isEmpty then none
      else some (bareText (innerText written)) := by
  rw [declaredType?, innerText]
  cases Text.cutFirst? written "<" <;> rfl

section
variable {name : List Char} {t : Template}

theorem contains_ofList_fill (hname : IsWordName name) {mark : Char}
    (hmark : Text.isWord mark = false) {part : String} (hpart : part.toList = [mark]) :
    Text.contains (.ofList (fill name t)) part = decide (some mark ∈ t) := by
  rw [Text.contains, String.toList_ofList, hpart, contains_fill t hname hmark]

theorem exists_before (t : Template) {mark : Char} (hmark : Text.isWord mark = false)
    {part : String} (hpart : part.toList = [mark]) :
    ∃ before, before <:+: t ∧ ∀ name, IsWordName name →
      Text.before (.ofList (fill name t)) part = .ofList (fill name before) := by
  by_cases h : some mark ∈ t
  · obtain ⟨before, after, rfl, hcut⟩ := exists_cut hmark h
    refine ⟨before, (prefix_append before _).isInfix, fun name hname => ?_⟩
    rw [Text.before, Text.cutFirst?, String.toList_ofList, hpart, hcut name hname]
    rfl
  · refine ⟨t, infix_rfl, fun name hname => ?_⟩
    rw [Text.before, Text.cutFirst?, String.toList_ofList, hpart, cutFirst?_eq_none hname hmark h]
    rfl

theorem exists_inner (t : Template) : ∃ inner, inner <:+: t ∧ ∀ name, IsWordName name →
    innerText (.ofList (fill name t)) = .ofList (fill name inner) := by
  have hopen : Text.isWord '<' = false := by decide
  have hclose : Text.isWord '>' = false := by decide
  by_cases h : some '<' ∈ t ∧ some '>' ∈ t
  · obtain ⟨before, after, hafter, hcut⟩ := exists_cut hopen h.1
    obtain ⟨inner, hinner, hbefore⟩ := exists_before after hclose (by decide : ">".toList = ['>'])
    refine ⟨inner, hinner.trans ⟨before ++ [some '<'], [], by simpa using hafter⟩, fun name hname => ?_⟩
    rw [innerText, contains_ofList_fill hname hopen (by decide), contains_ofList_fill hname hclose
      (by decide), decide_eq_true h.1, decide_eq_true h.2, Text.cutFirst?, String.toList_ofList,
      show "<".toList = ['<'] by decide, hcut name hname]
    exact hbefore name hname
  · refine ⟨t, infix_rfl, fun name hname => ?_⟩
    rw [innerText, contains_ofList_fill hname hopen (by decide), contains_ofList_fill hname hclose
      (by decide), ← Bool.decide_and, decide_eq_false h, if_neg Bool.false_ne_true]

def barePart (t : Template) : Template :=
  trim (dropEnd (trim (dropStart t "const".toList)) '*')

theorem bareText_fill (hname : IsDeclarable name) (ht : t.IsChain Apart) :
    bareText (.ofList (fill name t)) =
      .ofList (fill name (barePart t)) := by
  have hconst : ∀ c ∈ "const".toList, Text.isWord c = true := by
    have h : "const".toList.all Text.isWord = true := by decide
    exact all_eq_true.1 h
  have htrim : ∀ t, Text.trim (.ofList (fill name t)) = .ofList (fill name (trim t)) := by
    intro t
    rw [Text.trim, String.toList_ofList, trim_fill t hname.toIsWordName]
  rw [bareText, Text.dropStart, String.toList_ofList,
    dropStart_fill t hname.toIsWordName ht hconst hname.notConst, htrim, Text.dropEnd,
    String.toList_ofList, show "*".toList = ['*'] by decide,
    dropEnd_fill _ hname.toIsWordName (by decide), htrim]
  rfl

theorem isEmpty_ofList_fill (hname : IsWordName name) :
    (String.ofList (fill name t)).isEmpty = t.isEmpty := by
  rw [← isEmpty_fill hname t, Bool.eq_iff_iff, String.isEmpty_iff, List.isEmpty_iff,
    ← String.toList_inj, String.toList_ofList]
  rfl

theorem exists_declaredPart (ht : t.IsChain Apart) : ∃ found : Option Template,
    ∀ name, IsDeclarable name → declaredType? (.ofList (fill name t)) =
      found.map fun part => .ofList (fill name part) := by
  have hkeyword : ∀ {word : String}, word.toList.all Text.isWord = true → ∀ {name},
      IsWordName name → name ≠ word.toList →
        (String.ofList (fill name t) == word) = decide (t = word.toList.map some) := by
    intro word hword name hname hne
    rw [Bool.eq_iff_iff, beq_iff_eq, decide_eq_true_eq,
      ← fill_eq_word_iff t hname ht (all_eq_true.1 hword) hne.symm]
    exact ⟨fun h => by rw [← h, String.toList_ofList], fun h => by rw [h, String.ofList_toList]⟩
  obtain ⟨inner, hinner, htext⟩ := exists_inner t
  have hwritten : ∀ {name}, IsDeclarable name → declaredType? (.ofList (fill name t)) =
      if t = "return".toList.map some ∨ t = "else".toList.map some then none
      else if barePart inner = [] then none
      else some (.ofList (fill name (barePart inner))) := by
    intro name hname
    have hchain : inner.IsChain Apart := List.IsChain.infix ht hinner
    rw [declaredType?_eq, hkeyword (by decide) hname.toIsWordName hname.notReturn,
      hkeyword (by decide) hname.toIsWordName hname.notElse, ← Bool.decide_or,
      htext name hname.toIsWordName, bareText_fill hname hchain,
      isEmpty_ofList_fill hname.toIsWordName]
    simp only [decide_eq_true_eq, List.isEmpty_iff]
  by_cases hword : t = "return".toList.map some ∨ t = "else".toList.map some
  · refine ⟨none, fun name hname => ?_⟩
    rw [hwritten hname, if_pos hword, Option.map_none]
  · by_cases hempty : barePart inner = []
    · refine ⟨none, fun name hname => ?_⟩
      rw [hwritten hname, if_neg hword, if_pos hempty, Option.map_none]
    · refine ⟨some (barePart inner), fun name hname => ?_⟩
      rw [hwritten hname, if_neg hword, if_neg hempty, Option.map_some]

end

theorem lastDeclaration?_eq {name : String} (hname : IsWordName name.toList) (c : Code)
    (stop : Nat) : lastDeclaration? c name stop =
      return (c.matches (declarationRegex name.toList) 0 stop).reverse.findSome?
        (declaration? (declarationRegex name.toList)) := by
  have hread := read_declarationPattern hname.ne_nil fun c hc =>
    notMem_specialChars (hname.isWord c hc)
  rw [lastDeclaration?, patternOf, hread]
  rfl

section
variable {x y : List Char} {t : Template}

theorem named_declarationRegex (name : List Char) (key : String) :
    (declarationRegex name).named key = (declarationRegex []).named key := rfl

theorem declaration?_rel (ht : t.IsChain Apart) (hx : IsDeclarable x) (hy : IsDeclarable y)
    {m m' : Match} (h : SameMatch x y t (Corresponds x y t) m m') (name name' : List Char) :
    Option.Rel (fun d d' => (¬ x <:+: d.type.toList → d'.type = d.type) ∧
        ∃ part, part <:+: t ∧ d.value = .ofList (fill x part) ∧ d'.value = .ofList (fill y part))
      (declaration? (declarationRegex name) m) (declaration? (declarationRegex name') m') := by
  obtain ⟨directive, -, hdirective, hdirective'⟩ := h.group 1
  obtain ⟨written, hpart, hwritten, hwritten'⟩ := h.group 2
  have hchain : written.IsChain Apart := List.IsChain.infix ht hpart
  obtain ⟨found, hfound⟩ := exists_declaredPart hchain
  have hone : (declarationRegex []).named "directive" = 1 := by decide
  have htwo : (declarationRegex []).named "type" = 2 := by decide
  simp only [declaration?, named_declarationRegex name, named_declarationRegex name', hone, htwo,
    hdirective, hdirective', hwritten, hwritten', hfound x hx, hfound y hy,
    isEmpty_ofList_fill hx.toIsWordName, isEmpty_ofList_fill hy.toIsWordName]
  split_ifs
  · exact .none
  · cases found with
    | none => exact .none
    | some part =>
      refine .some ⟨fun hfree => ?_, h.group 3⟩
      rw [String.toList_ofList] at hfree
      exact congrArg String.ofList (fill_eq_fill (none_notMem_of_free hfree) y)

theorem gives_lastDeclaration? {project : Project} {c c' : Code} {rest : Template}
    (hfits : Fits x y t) (hx : IsDeclarable x) (hy : IsDeclarable y)
    (hbody : c.body = fill x (t ++ rest)) (hbody' : c'.body = fill y (t ++ rest))
    {name name' : String} (hname : Counterpart x y name.toList name'.toList)
    (hword : IsWordName name.toList) (hword' : IsWordName name'.toList) {d : Declaration}
    (h : Gives project (lastDeclaration? c name (fill x t).length) (some d))
    (hfree : ¬ x <:+: d.type.toList) :
    ∃ d', Gives project (lastDeclaration? c' name' (fill y t).length) (some d') ∧
      d'.type = d.type ∧ ∃ part, part <:+: t ∧ d.value = .ofList (fill x part) ∧
        d'.value = .ofList (fill y part) := by
  have hmatches := (findsAlike_declaration hfits hname).forall₂_matchesIn hfits rest
  have hrel := rel_findSome? (rel_reverse hmatches) fun _ _ hm =>
    declaration?_rel hfits.apart hx hy hm name.toList name'.toList
  rw [lastDeclaration?_eq hword, Code.matches, hbody] at h
  rw [← h.of_pure] at hrel
  obtain ⟨d', hfound, htype, hvalue⟩ := rel_some_left hrel
  refine ⟨d', ?_, htype hfree, hvalue⟩
  rw [lastDeclaration?_eq hword', Code.matches, hbody', hfound]
  exact .of_outcome (s := {}) rfl

end

/-- A name that a variable of a body can have without being taken for something else. -/
structure IsLocalName (s : String) : Prop extends IsPlainName s where
  isWordName : IsWordName s.toList
  /-- Behind such a name, a semicolon could end a return statement. -/
  notReturn : Text.endsWith s "return" = false
  notElse : (s == "else") = false

def Code.renamed (c : Code) (x y : String) : Code :=
  { c with body := Chars.replace c.body x.toList y.toList }

/-- The text tells the type, whatever the variable `x` is called in it. -/
def TellsType (x : String) (literal : Bool) (s type : String) : Prop :=
  ∀ y, IsLocalName y → shape literal (bareExpression (Text.replace s x y)) = .known type

/-- A declaration whose type settles the type, or whose value does where the type says nothing. -/
inductive Declaration.Settles (d : Declaration) (x : String) : Prop
  | type (notVague : vagueTypes.contains d.type = false)
      (settled : (shape true (bareExpression d.type)).isSettled = true)
  | value {type : String} (vague : vagueTypes.contains d.type = true)
      (tells : TellsType x true d.value type)

/-- A return statement that returns a declared variable or a text, where the declaration and the
text settle what is returned, whatever the variable `x` is called. -/
inductive ReturnsSettled (project : Project) (c : Code) (x : String) (m : Match) : Prop
  | declared {d : Declaration} {type : String} (plain : IsPlainName (m.group 1))
      (isWordName : IsWordName (m.group 1).toList)
      (declared : DeclaredAs project c (m.group 1) m.stop d type) (settles : d.Settles x)
      (free : Text.contains d.type x = false)
  | spelled (settled : (shape false (bareExpression (m.group 1))).isSettled = true)
      (free : Text.contains (m.group 1) x = false)
  | told {type : String} (tells : TellsType x false (m.group 1) type)

theorem not_infix_of_contains {cs part : List Char} (h : Chars.contains cs part = false) :
    ¬ part <:+: cs := by
  rwa [← Chars.contains_iff_infix, Bool.not_eq_true]

theorem IsLocalName.notReturnWord {s : String} (h : IsLocalName s) : ¬ returnWord <:+ s.toList := by
  rw [← isSuffixOf_iff_suffix, Bool.not_eq_true]
  exact h.notReturn

theorem IsLocalName.isDeclarable {s : String} (h : IsLocalName s) : IsDeclarable s.toList where
  toIsWordName := h.isWordName
  notConst := by
    rw [← isPrefixOf_iff_prefix, Bool.not_eq_true]
    exact h.notConst
  notReturn := by
    intro heq
    exact h.notReturnWord (heq ▸ suffix_rfl)
  notElse := by
    have hne := h.notElse
    rw [beq_eq_false_iff_ne] at hne
    exact fun heq => hne (String.toList_inj.1 heq)

/-- Two bodies that are one text with holes, filled with the names of a variable. -/
structure Renames (x y : String) (t : Template) (c c' : Code) : Prop where
  left : IsLocalName x
  right : IsLocalName y
  fits : Fits x.toList y.toList t
  holes : t = holes x.toList 0 c.body
  body : c.body = fill x.toList t
  body' : c'.body = fill y.toList t
  owner : c.owner = c'.owner

section
variable {project : Project} {c c' : Code} {x y : String} {t : Template} {m m' : Match}

theorem TellsType.of_parts {literal : Bool} {s s' type : String} {part : Template}
    (h : TellsType x literal s type) (hx : IsLocalName x) (hy : IsLocalName y) {cs : List Char}
    (hpart : part <:+: holes x.toList 0 cs) (hs : s = .ofList (fill x.toList part))
    (hs' : s' = .ofList (fill y.toList part)) :
    shape literal (bareExpression s) = .known type ∧
      shape literal (bareExpression s') = .known type := by
  have hne := hx.isWordName.ne_nil
  have hreplace : ∀ z : String, Text.replace s x z = .ofList (fill z.toList part) := by
    intro z
    rw [Text.replace, hs, String.toList_ofList, fill_part hne hpart z.toList]
  have hshape := h x hx
  have hshape' := h y hy
  rw [hreplace, ← hs] at hshape
  rw [hreplace, ← hs'] at hshape'
  exact ⟨hshape, hshape'⟩

theorem typeOfDeclaration_of_value {d : Declaration} (hvague : vagueTypes.contains d.type = true)
    {type : String} (hvalue : shape true (bareExpression d.value) = .known type) (c : Code)
    (stop : Nat) : typeOfDeclaration (typeWithin 1 c) d stop = return .text type := by
  have hne : d.value.isEmpty = false := by
    by_contra h
    rw [Bool.not_eq_false, String.isEmpty_iff] at h
    rw [h, show shape true (bareExpression "") = .anything by decide +kernel] at hvalue
    cases hvalue
  rw [typeOfDeclaration, hvague, if_pos rfl, hne, typeWithin]
  unfold step
  dsimp only
  rw [hvalue]
  rfl

theorem DeclaredAs.counterpart (hc : Renames x y t c c') {name name' : String}
    (hname : Counterpart x.toList y.toList name.toList name'.toList)
    (hword : IsWordName name.toList) (hword' : IsWordName name'.toList) {stop stop' : Nat}
    (hstop : Corresponds x.toList y.toList t stop stop') {d : Declaration} {type : String}
    (h : DeclaredAs project c name stop d type) (hsettles : d.Settles x)
    (hfree : Text.contains d.type x = false) :
    ∃ d', DeclaredAs project c' name' stop' d' type := by
  obtain ⟨before, after, rfl, rfl, rfl⟩ := hstop
  obtain ⟨d', hfound, htype, part, hpart, hvalue, hvalue'⟩ := gives_lastDeclaration?
    hc.fits.before hc.left.isDeclarable hc.right.isDeclarable hc.body hc.body' hname hword hword'
    h.found (not_infix_of_contains hfree)
  refine ⟨d', hfound, ?_, h.isFinal⟩
  have hgives := h.gives
  cases hsettles with
  | type notVague settled =>
    rw [typeOfDeclaration, notVague, if_neg Bool.false_ne_true, typeWithin] at hgives
    rw [typeOfDeclaration, htype, notVague, if_neg Bool.false_ne_true, typeWithin]
    have hagree : AgreesUnless project .tooDeep
        (step (typeWithin 0 c) c d.type (fill x.toList before).length true)
        (step (typeWithin 0 c') c' d.type (fill y.toList before).length true) :=
      agreesUnless_settled settled hc.owner _ _ _ _
    exact .of_outcome (hagree.ends hgives {})
  | value vague tells =>
    have hwithin : part <:+: holes x.toList 0 c.body :=
      hc.holes ▸ hpart.trans (prefix_append before after).isInfix
    obtain ⟨hshape, hshape'⟩ := tells.of_parts hc.left hc.right hwithin hvalue hvalue'
    rw [typeOfDeclaration_of_value vague hshape] at hgives
    rw [typeOfDeclaration_of_value (htype ▸ vague) hshape', ← hgives.of_pure]
    exact .of_outcome (s := {}) rfl

theorem ReturnsSettled.returnsAlike (hc : Renames x y t c c')
    (hm : SameMatch x.toList y.toList t (Corresponds x.toList y.toList t) m m')
    (h : ReturnsSettled project c x m) : ReturnsAlike project c c' m m' := by
  obtain ⟨part, hpart, hgroup, hgroup'⟩ := hm.group 1
  cases h with
  | declared plain hword hdeclared settles free =>
    have hcounterpart : Counterpart x.toList y.toList (m.group 1).toList (m'.group 1).toList := by
      rw [hgroup, String.toList_ofList] at hword
      rw [hgroup, hgroup', String.toList_ofList, String.toList_ofList]
      exact counterpart_of_fill hc.fits hpart hword
    have hplain : ∀ {s : String}, IsPlainName s ↔ IsPlainName (.ofList s.toList) := by
      intro s
      rw [String.ofList_toList]
    have plain' : IsPlainName (m'.group 1) := hplain.2 <|
      hcounterpart.transfer (P := fun name => IsPlainName (.ofList name))
        (hplain.1 hc.right.toIsPlainName) (hplain.1 plain)
    obtain ⟨d', hdeclared'⟩ := hdeclared.counterpart hc hcounterpart hword
      (hcounterpart.transfer hc.right.isWordName hword) hm.stop settles free
    have hstop := hm.stop.le_length
    rw [← hc.body, ← hc.body'] at hstop
    exact .declared plain plain' hstop.1 hstop.2 hdeclared hdeclared'
  | spelled settled free =>
    refine .settled ?_ settled
    rw [hgroup, Text.contains, String.toList_ofList] at free
    rw [hgroup, hgroup', fill_eq_fill (none_notMem_of_free (not_infix_of_contains free)) y.toList]
  | told tells =>
    obtain ⟨hshape, hshape'⟩ := tells.of_parts hc.left hc.right (hc.holes ▸ hpart) hgroup hgroup'
    exact .known hshape hshape'

end

/-- A call whose start tells its type does so whatever a variable in its arguments is called. -/
theorem tellsType_call {x name type : String} (hx : IsWordName x.toList)
    (hstart : tellsType (name ++ "(") type = true) {around : String × String}
    (haround : around ∈ surroundings) (hfree : Text.contains (around.1 ++ name) x = false)
    (inside : List Char) {last : Char} (hlast : last ≠ '(') (literal : Bool) :
    TellsType x literal (around.1 ++ (name ++ "(" ++ .ofList (inside ++ [last, ')']) ++ around.2))
      type := by
  intro y hy
  have hmark : ∀ {z : List Char}, IsWordName z → ∀ c, Text.isWord c = false → c ∉ z := by
    intro z hz c hc hmem
    rw [hz.isWord c hmem] at hc
    cases hc
  obtain ⟨front, final, hreplace, hfinal⟩ : ∃ front final,
      Chars.replace (inside ++ [last]) x.toList y.toList = front ++ [final] ∧ final ≠ '(' := by
    rcases Chars.exists_last_replace hx.ne_nil hy.isWordName.ne_nil
      (hmark hy.isWordName '(' (by decide)) (inside ++ [last]) with h | h | h
    · simp at h
    · rw [getLast?_concat] at h
      exact absurd (Option.some.inj h) hlast
    · exact h
  have hcall : IsCall (name ++ "(") (name ++ "(" ++ .ofList (front ++ [final, ')'])) := by
    refine ⟨by simp, (name ++ "(").toList ++ front ++ [final], by simp, ?_⟩
    rwa [getLast?_concat, ne_eq, Option.some_inj]
  have htail : ∀ c ∈ ')' :: around.2.toList, c ∉ x.toList := by
    have hmarks : (surroundings.all fun a => (')' :: a.2.toList).all (!Text.isWord ·)) = true := by
      decide +kernel
    intro c hc
    exact hmark hx c (by simpa using all_eq_true.1 (all_eq_true.1 hmarks around haround) c hc)
  have hopen : '(' ∉ x.toList := hmark hx '(' (by decide)
  have htext : Text.replace
      (around.1 ++ (name ++ "(" ++ .ofList (inside ++ [last, ')']) ++ around.2)) x y =
        around.1 ++ (name ++ "(" ++ .ofList (front ++ [final, ')']) ++ around.2) := by
    rw [← String.toList_inj, Text.replace, String.toList_ofList]
    have hsplit : (around.1 ++ (name ++ "(" ++ .ofList (inside ++ [last, ')']) ++ around.2)).toList =
        (around.1 ++ name).toList ++ ('(' :: ((inside ++ [last]) ++ (')' :: around.2.toList))) := by
      simp
    have hstarts : ¬ x.toList <+: '(' :: ((inside ++ [last]) ++ (')' :: around.2.toList)) := by
      intro h
      obtain ⟨c, rest, hc⟩ := exists_cons_of_ne_nil hx.ne_nil
      rw [hc, cons_prefix_cons] at h
      exact hopen (by rw [hc, h.1]; exact mem_cons_self)
    rw [hsplit, Chars.replace_append_rest hx.ne_nil _ fun c hc => ?_,
      Chars.replace_eq_self hx.ne_nil _ (not_infix_of_contains hfree), Chars.replace_cons hstarts,
      Chars.replace_append_tail hx.ne_nil _ htail, hreplace]
    · simp
    · obtain rfl := Option.some.inj hc
      exact hopen
  rw [htext, hcall.bareExpression hstart haround]
  exact hcall.shape hstart literal

/-- The type that a body returns does not depend on the name of a variable, if neither name is taken
for something else and the return statements settle what they return. -/
theorem returnType_renamed (project : Project) (c : Code) (x y : String) (hx : IsLocalName x)
    (hy : IsLocalName y) (hwhole : Chars.usesWhole c.body x.toList = true)
    (hfresh : Chars.contains c.body y.toList = false)
    (hreturns : ∀ m ∈ c.matches returnPattern 0 c.body.length, ReturnsSettled project c x m)
    (s t : Session) :
    ((returnType c).run project s).1 = ((returnType (c.renamed x y)).run project t).1 := by
  have hne := hx.isWordName.ne_nil
  have hfits := fits_holes hx.isWordName hy.isWordName hwhole (not_infix_of_contains hfresh)
  have hbody := (fill_holes hne c.body).symm
  have hbody' := (fill_holes_new hne y.toList c.body).symm
  have hmatches := (findsAlike_return hfits hx.notReturnWord hy.notReturnWord).forall₂_matchesIn
    hfits []
  rw [append_nil, ← hbody, ← hbody'] at hmatches
  have hboth := (forall₂_and_left (c.matches returnPattern 0 c.body.length)
    ((c.renamed x y).matches returnPattern 0 (c.renamed x y).body.length)).2 ⟨hreturns, hmatches⟩
  refine returnType_eq_of_returnsAlike ?_ (hboth.imp fun _ _ hm => ?_) s t
  · rfl
  · exact hm.1.returnsAlike ⟨hx, hy, hfits, rfl, hbody, hbody', rfl⟩ hm.2

def calledBody (name : String) : String :=
  "Py::Object " ++ name ++ " = Py::String(text); if (text) return Py::new_reference_to(Py::Float(" ++
    name ++ ")); return " ++ name ++ ";"

def calledCode (name : String) : Code := Code.make (calledBody name) "" ""

def returnedPlaces (c : Code) : List (String × Nat) :=
  (c.matches returnPattern 0 c.body.length).map fun m => (m.group 1, m.stop)

/-- A variable that its value tells the type of, returned by itself and in a call. -/
theorem returnType_renamed_label :
    ((returnType (calledCode "name")).run .empty {}).1 =
      ((returnType ((calledCode "name").renamed "name" "label")).run .empty {}).1 := by
  have hword : IsWordName "name".toList := .of_check (by decide +kernel)
  have hname : IsPlainName "name" := ⟨by decide, by decide, by decide, by decide⟩
  have hlabel : IsPlainName "label" := ⟨by decide, by decide, by decide, by decide⟩
  have hplaces : returnedPlaces (calledCode "name") =
      [("Py::new_reference_to(Py::Float(name))", 91), ("name", 104)] := by
    decide +kernel
  have hfound : ((((calledCode "name").matches (declarationRegex "name".toList) 0 104).reverse
      |>.findSome? (declaration? (declarationRegex "name".toList))).map fun d => (d.type, d.value)) =
        some ("Py::Object", "Py::String(text)") := by
    decide +kernel
  have hfloatText : "Py::new_reference_to(" ++ ("Py::Float" ++ "(" ++
      .ofList ("nam".toList ++ ['e', ')']) ++ ")") = "Py::new_reference_to(Py::Float(name))" := by
    decide +kernel
  have hfloat : TellsType "name" false "Py::new_reference_to(Py::Float(name))" "float" := by
    rw [← hfloatText]
    exact @tellsType_call "name" "Py::Float" "float" hword (by decide +kernel)
      ("Py::new_reference_to(", ")") (by decide) (by decide +kernel) _ _ (by decide) _
  have hstrText : "" ++ ("Py::String" ++ "(" ++ .ofList ("tex".toList ++ ['t', ')']) ++ "") =
      "Py::String(text)" := by
    decide +kernel
  have hstr : TellsType "name" true "Py::String(text)" "str" := by
    rw [← hstrText]
    exact @tellsType_call "name" "Py::String" "str" hword (by decide +kernel) ("", "") (by decide)
      (by decide +kernel) _ _ (by decide) _
  obtain ⟨d, hd, hparts⟩ := Option.map_eq_some_iff.1 hfound
  obtain ⟨htype, hvalue⟩ := Prod.mk.inj hparts
  rw [← hvalue] at hstr
  have hvague : vagueTypes.contains d.type = true := by
    rw [htype]
    decide
  have hdeclared : DeclaredAs .empty (calledCode "name") "name" 104 d "str" := by
    refine ⟨?_, ?_, by decide⟩
    · rw [lastDeclaration?_eq hword, hd]
      exact .of_outcome (s := {}) rfl
    · have hshape : shape true (bareExpression "Py::String(text)") = .known "str" := by
        decide +kernel
      rw [typeOfDeclaration_of_value hvague (hvalue ▸ hshape)]
      exact .of_outcome (s := {}) rfl
  refine returnType_renamed .empty (calledCode "name") "name" "label"
    ⟨hname, hword, by decide, by decide⟩
    ⟨hlabel, .of_check (by decide +kernel), by decide, by decide⟩ (by decide +kernel)
    (by decide +kernel) (fun m hm => ?_) {} {}
  have hplace : (m.group 1, m.stop) ∈ returnedPlaces (calledCode "name") := mem_map_of_mem hm
  rw [hplaces, mem_pair, Prod.mk.injEq, Prod.mk.injEq] at hplace
  rcases hplace with ⟨htext, -⟩ | ⟨htext, hstop⟩
  · exact .told (htext ▸ hfloat)
  · have hreturned : DeclaredAs .empty (calledCode "name") (m.group 1) m.stop d "str" := by
      rw [htext, hstop]
      exact hdeclared
    refine .declared (htext ▸ hname) (htext ▸ hword) hreturned (.value hvague hstr) ?_
    rw [htype]
    decide +kernel

def declaredBody (name : String) : String :=
  "Py::String " ++ name ++ "(text); return " ++ name ++ ";"

def declaredCode (name : String) : Code := Code.make (declaredBody name) "" ""

/-- A variable whose name starts like the name of a number type. -/
theorem interval_is_int :
    Text.isIdentifier "interval" = true ∧ Text.contains (declaredBody "name") "interval" = false ∧
      Text.replace (declaredBody "name") "name" "interval" = declaredBody "interval" ∧
      ((returnText (declaredCode "name")).run .empty {}).1 = .ok "str" ∧
      ((returnText (declaredCode "interval")).run .empty {}).1 = .ok "int" := by
  decide +kernel

end BindingStubs.Inference
