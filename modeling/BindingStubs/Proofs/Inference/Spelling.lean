import BindingStubs.Proofs.Inference.Answers
import BindingStubs.Proofs.Text.Blanks
import BindingStubs.Proofs.Text.Names

set_option autoImplicit false

/-! # The spelling of names -/

namespace BindingStubs

namespace Inference

open Gen List

theorem bareExpression_of_isNameLike {s : String} (hs : Text.IsNameLike s) :
    bareExpression s = Text.dropStart s "const" := by
  have hrest : Text.IsNameLike (Text.dropStart s "const") :=
    hs.within ((Text.Within.refl s).dropStart _)
  have hreference : dereference s = s := by
    rw [dereference, hs.startsWith (by decide), hs.startsWith (by decide)]
    rfl
  simp only [bareExpression]
  rw [hs.trim, hreference, hrest.trim, Text.dropStart_eq_self (hrest.startsWith (by decide)),
    hrest.trim, Text.dropEnd_eq_self (hrest.endsWith (by decide)), hrest.trim,
    Text.dropEnd_eq_self (hrest.endsWith (by decide)), hrest.trim]

/-- Starts of texts with a fixed meaning, in the order in which they are tried. -/
def fixedStarts : List (String × Shape) :=
  simpleStarts ++ ("PyByteArray_From", .known "bytes") :: containerStarts ++ wrapperStarts

def spelledShape? (s : String) : Option Shape :=
  if noneTexts.contains s then some (.known "None")
  else if nullTexts.contains s then some .null
  else match shapeByStart? fixedStarts s with
  | some found => some found
  | none =>
    if isClassName s then some (.instanceOf s)
    else if Text.contains s "Py_True" || Text.contains s "Py_False" then some (.known "bool")
    else none

theorem otherShape_of_isIdentifier {s : String} (hs : Text.isIdentifier s = true) :
    otherShape false s = if isClassName s then .instanceOf s
      else if Text.contains s "Py_True" || Text.contains s "Py_False" then .known "bool"
      else .variableName := by
  have hname := Text.IsNameLike.of_isIdentifier hs
  simp (disch := decide) only [otherShape, hname.startsWith, hname.endsWith, hs, Bool.or_self,
    Bool.false_eq_true, if_false, if_true]

theorem shapeByStart?_append (rules more : List (String × Shape)) (s : String) :
    shapeByStart? (rules ++ more) s = (shapeByStart? rules s).or (shapeByStart? more s) := by
  rw [shapeByStart?, find?_append, Option.map_or]
  rfl

theorem shapeByStart?_cons (rule : String × Shape) (rules : List (String × Shape)) (s : String) :
    shapeByStart? (rule :: rules) s =
      if Text.startsWith s rule.1 then some rule.2 else shapeByStart? rules s := by
  rw [shapeByStart?, find?_cons]
  cases Text.startsWith s rule.1 <;> rfl

theorem shape_of_isIdentifier {s : String} (hs : Text.isIdentifier s = true) :
    shape false s = (spelledShape? s).getD .variableName := by
  have hname := Text.IsNameLike.of_isIdentifier hs
  have hne : s.isEmpty = false := by
    by_contra h
    rw [Bool.not_eq_false, String.isEmpty_iff] at h
    rw [h] at hs
    cases hs
  simp (disch := decide) only [shape, hname.startsWith, hname.endsWith, hname.beq,
    otherShape_of_isIdentifier hs, hne, Bool.or_self, Bool.false_eq_true, if_false]
  rw [spelledShape?, fixedStarts, shapeByStart?_append, shapeByStart?_append, shapeByStart?_cons]
  split_ifs
  · rfl
  · rfl
  all_goals
    cases shapeByStart? simpleStarts s <;> cases shapeByStart? containerStarts s <;>
      cases shapeByStart? wrapperStarts s <;> rfl

structure IsPlainName (s : String) : Prop where
  isIdentifier : Text.isIdentifier s = true
  notConst : Text.startsWith s "const" = false
  notSpelled : spelledShape? s = none
  notThis : (s == "this") = false

section
variable {project : Project} {c : Code} {s : String} {stop : Nat}

theorem step_of_isPlainName (h : IsPlainName s) (ask : Ask) (c : Code) (stop : Nat) :
    step ask c s stop false = variableType ask c s stop := by
  have hbare : bareExpression s = s := by
    rw [bareExpression_of_isNameLike (.of_isIdentifier h.isIdentifier),
      Text.dropStart_eq_self h.notConst]
  have hshape : shape false s = .variableName := by
    rw [shape_of_isIdentifier h.isIdentifier, h.notSpelled]
    rfl
  unfold step
  dsimp only
  rw [hbare, hshape]

def openTypes : List String := [TypeExpr.anyText, "None", "list", "tuple", "dict"]

/-- The last declaration of a name before a place says its type without further questions, and the
type is final. -/
structure DeclaredAs (project : Project) (c : Code) (name : String) (stop : Nat) (d : Declaration)
    (type : String) : Prop where
  found : Gives project (lastDeclaration? c name stop) (some d)
  gives : Gives project (typeOfDeclaration (typeWithin 1 c) d stop) (.text type)
  isFinal : type ∉ openTypes

theorem withItems_of_isFinal {ask : Ask} {type name : String} {declared start : Nat}
    (h : type ∉ openTypes) :
    withItems ask c type name declared start stop = return .text type := by
  unfold withItems
  split
  · exact absurd (by decide) h
  · exact absurd (by decide) h
  · exact absurd (by decide) h
  · rfl

theorem DeclaredAs.ends_variableType {d : Declaration} {type : String}
    (h : DeclaredAs project c s stop d type) (hs : IsPlainName s) (hstop : stop ≤ c.body.length)
    {depth : Nat} (hdepth : 1 ≤ depth) :
    Ends project (variableType (typeWithin depth c) c s stop) (.ok (.text type)) := by
  have hd := of_lastDeclaration h.found
  have hlast := h.found.ends (.bind (indifferent_patternOf _ _) fun _ => .pure _)
  have hdeclared : Ends project (typeOfDeclaration (typeWithin depth c) d stop) (.ok (.text type)) :=
    ((asksAlike_typeWithin project c hdepth).typeOfDeclaration hstop hd).ends h.gives
  have hne : ∀ other ∈ openTypes, (type == other) = false := by
    intro other hother
    rw [beq_eq_false_iff_ne]
    rintro rfl
    exact h.isFinal hother
  unfold variableType
  dsimp only
  rw [hs.notThis, if_neg Bool.false_ne_true]
  refine hlast.bind (hdeclared.bind ?_)
  rw [show (TypeExpr.text type).isText "None" = false from hne _ (by decide),
    show (TypeExpr.text type).isAny = false from hne _ (by decide), if_neg Bool.false_ne_true,
    if_neg Bool.false_ne_true, pure_bind]
  dsimp only
  rw [withItems_of_isFinal h.isFinal]
  exact fun _ => rfl

end

def Shape.isSettled : Shape → Bool
  | .anything | .null | .known _ | .owner | .sceneNode | .widget | .instanceOf _ | .unrecognised => true
  | _ => false

theorem agreesUnless_settled {project : Project} {fault : Fault} {c c' : Code} {expression : String}
    {literal : Bool} (h : (shape literal (bareExpression expression)).isSettled = true)
    (howner : c.owner = c'.owner) (ask ask' : Ask) (stop stop' : Nat) :
    AgreesUnless project fault (step ask c expression stop literal)
      (step ask' c' expression stop' literal) := by
  unfold step
  dsimp only
  cases hshape : shape literal (bareExpression expression) with
  | anything => exact .pure _
  | null => exact .refl (.throw _)
  | known => exact .pure _
  | owner =>
    dsimp only
    rw [howner]
    exact .pure _
  | sceneNode => exact .refl (indifferent_sceneNodeType _)
  | widget => exact .refl (indifferent_widgetType _)
  | instanceOf text =>
    have hinstance : instanceType c' text "" = instanceType c text "" := by
      rw [instanceType, instanceType, howner]
    dsimp only
    rw [hinstance]
    exact .refl (indifferent_instanceType _ _ _)
  | unrecognised => exact .refl (.bind (.report _ _ _) fun _ => .pure _)
  | _ =>
    rw [hshape] at h
    cases h

def wholeTexts : List String :=
  ["Py::Object()", "type->tp_new(type, this, nullptr)", "this->GetType()", "IncRef()",
    "getDocumentObjectPtr()"] ++ noneTexts ++ nullTexts

/-- What may stand around a call: nothing, or the making of a reference. -/
def surroundings : List (String × String) :=
  [("", ""), ("new_reference_to(", ")"), ("Py::new_reference_to(", ")")]

def takenOff : List String := ["new_reference_to(", "Py::new_reference_to(", "const", "*"]

/-- Does a start tell the type of every call? No text that is looked for goes on from it. -/
def tellsType (start type : String) : Bool :=
  shapeByStart? simpleStarts start == some (.known type) &&
    start.toList.head?.any (!Text.isBlank ·) &&
    takenOff.all (fun other => !Text.startsWith start other) &&
    (simpleStarts.map Prod.fst ++ wholeTexts ++ takenOff).all fun other => !Text.startsWith other start

/-- A call with arguments that begins with the start. -/
structure IsCall (start s : String) : Prop where
  starts : start.toList <+: s.toList
  ends : ∃ front, s.toList = front ++ [')'] ∧ front.getLast? ≠ some '('

section
variable {start s other type : String}

theorem startsWith_of_starts (h : start.toList <+: s.toList)
    (hother : Text.startsWith other start = false) :
    Text.startsWith s other = Text.startsWith start other := by
  rw [Text.startsWith, Chars.startsWith] at hother
  rw [Bool.eq_iff_iff, Text.startsWith, Text.startsWith, Chars.startsWith, Chars.startsWith,
    isPrefixOf_iff_prefix, isPrefixOf_iff_prefix]
  refine ⟨fun hs => ?_, fun hstart => hstart.trans h⟩
  have hcases := prefix_or_prefix_of_prefix hs h
  refine hcases.resolve_right fun hlong => ?_
  have hstarts := isPrefixOf_iff_prefix.2 hlong
  rw [hstarts] at hother
  cases hother

theorem trim_of_ends (hblank : start.toList.head?.any (!Text.isBlank ·) = true)
    (h : start.toList <+: s.toList) {front : List Char} (hs : s.toList = front ++ [')']) :
    Text.trim s = s := by
  have hhead : s.toList.head?.all (!Text.isBlank ·) = true := by
    obtain ⟨rest, hrest⟩ := h
    rw [← hrest]
    cases hlist : start.toList with
    | nil =>
      rw [hlist] at hblank
      cases hblank
    | cons c cs =>
      rw [hlist] at hblank
      exact hblank
  rw [Text.trim, Chars.trim_eq_self_iff.2 ⟨hhead, ?_⟩, String.ofList_toList]
  rw [hs, getLast?_concat]
  rfl

theorem shapeByStart?_congr {rules : List (String × Shape)}
    (h : ∀ rule ∈ rules, Text.startsWith s rule.1 = Text.startsWith start rule.1) :
    shapeByStart? rules s = shapeByStart? rules start := by
  induction rules with
  | nil => rfl
  | cons rule rules ih =>
    rw [forall_mem_cons] at h
    rw [shapeByStart?_cons, shapeByStart?_cons, h.1, ih h.2]

theorem IsCall.endsWith (h : IsCall start s) (hne : other.toList ≠ [])
    (hlast : other.toList.getLast? = some ')' → other.toList.dropLast.getLast? = some '(') :
    Text.endsWith s other = false := by
  by_contra hend
  rw [Bool.not_eq_false, Text.endsWith, Chars.endsWith, isSuffixOf_iff_suffix,
    ← dropLast_append_getLast hne] at hend
  obtain ⟨front, hs, hopen⟩ := h.ends
  obtain ⟨before, heq⟩ := hend
  rw [hs, ← append_assoc] at heq
  obtain ⟨rfl, hmark⟩ := append_inj' heq rfl
  rw [getLast?_eq_some_getLast hne] at hlast
  rw [getLast?_append, hlast (congrArg some (singleton_inj.1 hmark))] at hopen
  exact hopen rfl

theorem IsCall.shape (h : IsCall start s) (hstart : tellsType start type = true) (literal : Bool) :
    shape literal s = .known type := by
  simp only [tellsType, Bool.and_eq_true, beq_iff_eq] at hstart
  obtain ⟨⟨⟨hshape, -⟩, -⟩, hothers⟩ := hstart
  have hother : ∀ {other}, other ∈ simpleStarts.map Prod.fst ++ wholeTexts ++ takenOff →
      Text.startsWith other start = false := by
    intro other hmem
    simpa using all_eq_true.1 hothers other hmem
  have hwhole : s ∉ wholeTexts := by
    intro hmem
    have hlong := hother (mem_append_left _ (mem_append_right _ hmem))
    rw [Text.startsWith, Chars.startsWith, isPrefixOf_iff_prefix.2 h.starts] at hlong
    cases hlong
  have hne : ∀ {other}, other ∈ wholeTexts → (s == other) = false := fun hmem =>
    beq_eq_false_iff_ne.2 fun heq => hwhole (heq ▸ hmem)
  have hcontains : ∀ {texts : List String}, texts ⊆ wholeTexts → texts.contains s = false :=
    fun htexts => Bool.eq_false_iff.2 fun hmem => hwhole (htexts (contains_iff_mem.1 hmem))
  have hempty : s.isEmpty = false := by
    obtain ⟨front, hs, -⟩ := h.ends
    rw [Bool.eq_false_iff, ne_eq, String.isEmpty_iff]
    rintro rfl
    simp at hs
  have hstarts : shapeByStart? simpleStarts s = some (.known type) := by
    rw [← hshape]
    exact shapeByStart?_congr fun rule hrule => startsWith_of_starts h.starts
      (hother (mem_append_left _ (mem_append_left _ (mem_map_of_mem hrule))))
  rw [Inference.shape, hempty, @hne "Py::Object()" (by decide), @hcontains noneTexts (by decide),
    @hcontains nullTexts (by decide), @hne "type->tp_new(type, this, nullptr)" (by decide),
    @hne "this->GetType()" (by decide), @hne "IncRef()" (by decide),
    h.endsWith (by decide) (by decide), @hne "getDocumentObjectPtr()" (by decide), hstarts]
  rfl

theorem dereference_of_reference {reference : String}
    (hreference : reference ∈ ["new_reference_to(", "Py::new_reference_to("])
    (htrim : Text.trim s = s) : dereference (Text.trim (reference ++ (s ++ ")"))) = s := by
  have hblank : ∀ r ∈ ["new_reference_to(", "Py::new_reference_to("],
      r.toList.head?.any (!Text.isBlank ·) = true := by
    decide
  have hend : Text.endsWith (reference ++ (s ++ ")")) ")" = true := by
    simp [Text.endsWith, Chars.endsWith, ← append_assoc]
  have hlast : Text.dropEnd (s ++ ")") ")" = s := by
    simp [Text.dropEnd, Chars.dropEnd]
  rw [@trim_of_ends reference _ (hblank _ hreference) (by simp) (reference.toList ++ s.toList)
    (by simp), dereference, hend]
  simp only [mem_cons, not_mem_nil, or_false] at hreference
  rcases hreference with rfl | rfl <;>
    simp [Text.startsWith, Chars.startsWith, Text.dropStart, Chars.dropStart, hlast, htrim]

theorem IsCall.bareExpression (h : IsCall start s) (hstart : tellsType start type = true)
    {around : String × String} (haround : around ∈ surroundings) :
    bareExpression (around.1 ++ (s ++ around.2)) = s := by
  simp only [tellsType, Bool.and_eq_true] at hstart
  obtain ⟨⟨⟨-, hblank⟩, htaken⟩, hothers⟩ := hstart
  obtain ⟨front, hs, -⟩ := h.ends
  have htrim := trim_of_ends hblank h.starts hs
  have hoff : ∀ other ∈ takenOff, Text.startsWith s other = false := by
    intro other hother
    have hshort := all_eq_true.1 hothers other (mem_append_right _ hother)
    rw [startsWith_of_starts h.starts (by simpa using hshort)]
    simpa using all_eq_true.1 htaken other hother
  have hinside : dereference (Text.trim (around.1 ++ (s ++ around.2))) = s := by
    simp only [surroundings, mem_cons, not_mem_nil, or_false] at haround
    rcases haround with rfl | rfl | rfl
    · rw [String.append_empty, String.empty_append, htrim, dereference, hoff _ (by decide),
        hoff _ (by decide)]
      rfl
    · exact dereference_of_reference (by decide) htrim
    · exact dereference_of_reference (by decide) htrim
  simp only [Inference.bareExpression]
  rw [hinside, Text.dropStart_eq_self (hoff _ (by decide)), htrim,
    Text.dropStart_eq_self (hoff _ (by decide)), htrim,
    Text.dropEnd_eq_self (h.endsWith (by decide) (by decide)), htrim,
    Text.dropEnd_eq_self (h.endsWith (by decide) (by decide)), htrim]

end

theorem expressionType_eq (c : Code) : expressionType c = step (typeWithin 899 c) c := by
  rw [expressionType, deepest, typeWithin]

/-- Two return statements that return plain names declared alike, the same text if it settles its
type, or texts that tell the same type. -/
inductive ReturnsAlike (project : Project) (c c' : Code) (m m' : Pattern.Match) : Prop
  | declared {d d' : Declaration} {type : String} (plain : IsPlainName (m.group 1))
      (plain' : IsPlainName (m'.group 1)) (stop_le : m.stop ≤ c.body.length)
      (stop_le' : m'.stop ≤ c'.body.length)
      (declared : DeclaredAs project c (m.group 1) m.stop d type)
      (declared' : DeclaredAs project c' (m'.group 1) m'.stop d' type)
  | settled (same : m.group 1 = m'.group 1)
      (settled : (shape false (bareExpression (m.group 1))).isSettled = true)
  | known {type : String} (known : shape false (bareExpression (m.group 1)) = .known type)
      (known' : shape false (bareExpression (m'.group 1)) = .known type)

theorem ReturnsAlike.returnsAgree {project : Project} {c c' : Code} {m m' : Pattern.Match}
    (h : ReturnsAlike project c c' m m') (howner : c.owner = c'.owner) (fault : Fault) :
    ReturnsAgree project fault (expressionType c) (expressionType c') m m' := by
  rw [ReturnsAgree, expressionType_eq, expressionType_eq]
  have hdepth : 1 ≤ 899 := by decide
  cases h with
  | declared plain plain' stop_le stop_le' declared declared' =>
    rw [step_of_isPlainName plain, step_of_isPlainName plain']
    exact .of_ends (declared.ends_variableType plain stop_le hdepth)
      (declared'.ends_variableType plain' stop_le' hdepth)
  | settled same settled =>
    rw [← same]
    exact agreesUnless_settled settled howner _ _ _ _
  | known known known' =>
    unfold step
    dsimp only
    rw [known, known']
    exact .pure _

theorem returnType_eq_of_returnsAlike {project : Project} {c c' : Code} (howner : c.owner = c'.owner)
    (h : Forall₂ (ReturnsAlike project c c') (c.matches returnPattern 0 c.body.length)
      (c'.matches returnPattern 0 c'.body.length)) (s t : Session) :
    ((returnType c).run project s).1 = ((returnType c').run project t).1 := by
  have hagree : ∀ fault, fault ≠ .nothingLeft → fault ≠ .nullResult →
      AgreesUnless project fault (returnType c) (returnType c') := fun fault hnothing hnull =>
    agreesUnless_returnTypeBy (h.imp fun _ _ hm => hm.returnsAgree howner fault) hnothing hnull
  exact (hagree .tooDeep (by decide) (by decide)).eq_of_ne
    (hagree .noOwner (by decide) (by decide)) (by decide) s t

end Inference

end BindingStubs
