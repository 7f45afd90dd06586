import BindingStubs.Proofs.Inference.Assignments
import BindingStubs.Proofs.TypeExpr.Modules

set_option autoImplicit false

/-! # Assigned variables -/

namespace BindingStubs.Inference

open Pattern ClassSection List

theorem infix_of_infix_gap {name gap cs : List Char} (hname : IsWordName name) (hgap : IsGap gap)
    (h : name <:+: gap ++ cs) : name <:+: cs := by
  induction gap with
  | nil => exact h
  | cons b gap ih =>
    rw [IsGap, forall_mem_cons] at hgap
    rcases infix_cons_iff.1 h with hstarts | hinside
    · obtain ⟨c, others, rfl⟩ := exists_cons_of_ne_nil hname.ne_nil
      obtain rfl := (cons_prefix_cons.1 hstarts).1
      have hword := hname.isWord c mem_cons_self
      rw [Text.not_isWord_of_isBlank hgap.1] at hword
      cases hword
    · exact ih hgap.2 hinside

structure Assignment (name : List Char) where
  indent : List Char
  left : List Char
  right : List Char
  value : List Char
  isGap_indent : IsGap indent := by decide
  isGap_left : IsGap left := by decide
  isGap_right : IsGap right := by decide
  inOne : ';' ∉ value := by decide
  /-- The blanks before the value do not belong to it. -/
  tight : value.head?.any Text.isBlank = false := by decide
  free : ¬ name <:+: value := by decide

/-- Code that does not mention the name, up to a character that no declaration goes over. -/
structure Aside (name : List Char) where
  front : List Char
  last : Char
  ends : isDeclaring last = false := by decide
  free : ¬ name <:+: front := by decide

/-- Code of a body that neither declares a variable nor returns it. -/
inductive Statement (name : List Char)
  | assigned (a : Assignment name)
  | other (o : Aside name)

namespace Statement
variable {name : List Char}

def text : Statement name → List Char
  | assigned a => a.indent ++ (name ++ a.left ++ '=' :: a.right ++ a.value ++ [';'])
  | other o => o.front ++ [o.last]

def value? : Statement name → Option String
  | assigned a => some (String.ofList a.value)
  | other _ => none

theorem barren_text (hname : IsWordName name) (s : Statement name) (after : List Char) :
    Barren (declarationRegex name) s.text after := by
  cases s with
  | assigned a =>
    have hassign : text (.assigned a) =
        (a.indent ++ name ++ a.left ++ ['=']) ++ (a.right ++ a.value ++ [';']) := by
      simp [text]
    rw [hassign]
    exact (barren_declaration_name hname (by decide) a.isGap_indent a.isGap_left).append
      (barren_declaration hname (by decide) fun h =>
        a.free (infix_of_infix_gap hname a.isGap_right h))
  | other o => exact barren_declaration hname o.ends o.free

theorem matchesLoop_flatMap (hname : IsWordName name) (statements : List (Statement name))
    {cs before tail : List Char} {fuel : Nat}
    (hcs : cs = before ++ (statements.flatMap text ++ tail))
    (htail : ∀ before fuel,
      (assignRegex name).matchesLoop cs fuel false (.between before tail []) = [])
    (hfuel : (statements.flatMap text).length < fuel) :
    ((assignRegex name).matchesLoop cs fuel false
        (.between before (statements.flatMap text ++ tail) [])).map (·.group? 1) =
      (statements.filterMap value?).map some := by
  induction statements generalizing before fuel with
  | nil =>
    rw [flatMap_nil, nil_append, htail, filterMap_nil, map_nil, map_nil]
  | cons s statements ih =>
    rw [flatMap_cons, append_assoc] at hcs ⊢
    rw [flatMap_cons, length_append] at hfuel
    cases s with
    | assigned a =>
      obtain ⟨c, others, hfirst⟩ := exists_cons_of_ne_nil hname.ne_nil
      have hbarren : ∀ after, Barren (assignRegex name) a.indent after := fun after =>
        barren_gap rfl (by rw [hfirst, head?_cons])
          (not_isBlank_of_isWord (hname.isWord c (hfirst ▸ mem_cons_self))) a.isGap_indent
      rw [text, append_assoc, (hbarren _).matchesLoop]
      rw [text, append_assoc, ← append_assoc] at hcs
      have hvalue : cs = before ++ a.indent ++ (name ++ a.left ++ '=' :: a.right) ++
          (a.value ++ ';' :: (statements.flatMap text ++ tail)) := by
        rw [hcs]
        simp
      simp only [text, length_append, length_cons] at hfuel
      -- the match takes the whole assignment, so the rest is searched from behind it
      obtain ⟨fuel, rfl⟩ := Nat.exists_eq_succ_of_ne_zero (Nat.ne_zero_of_lt hfuel)
      rw [Nat.succ_eq_add_one, matchesLoop_of_run (moves_assign _ _)
        (run_assign hname a.isGap_left a.isGap_right a.inOne a.tight), map_cons,
        ih (by rw [hcs]; simp) (by omega), group?_of_caught hvalue]
      rfl
    | other o =>
      have hlast : o.last ∉ name := fun hmem =>
        Bool.false_ne_true (o.ends.symm.trans (isDeclaring_of_isWord (hname.isWord _ hmem)))
      have hbarren : Barren (assignRegex name) (text (.other o))
          (statements.flatMap text ++ tail) := barren_stretch rfl hlast o.free
      rw [hbarren.matchesLoop, ih (by rw [hcs, append_assoc]) (by omega)]
      rfl

end Statement

def objectWord : List Char := "PyObject*".toList

def declaring (name : List Char) : List Char := objectWord ++ ' ' :: name ++ [';']

def returnStart : List Char := returnWord ++ [' ']

def returning (name : List Char) : List Char := returnWord ++ ' ' :: name ++ [';']

theorem returning_append (name after : List Char) :
    returning name ++ after = returnStart ++ (name ++ ';' :: after) := by
  simp only [returning, returnStart, append_assoc, cons_append, nil_append]

theorem run_returning {name text before after : List Char} (hname : IsWordName name) :
    run text returnPattern.node (.between before (returning name ++ after) []) some =
      some (.between (before ++ returning name) after
        [(1, (before ++ returnStart).length, (before ++ returnStart ++ name).length)]) := by
  obtain ⟨first, others, rfl⟩ := exists_cons_of_ne_nil hname.ne_nil
  have hnot : ∀ c ∈ first :: others, c ≠ ';' := fun c hc h =>
    absurd (hname.isWord c hc) (h ▸ by decide)
  have hfirst : valueSet.has first = true :=
    (has_allBut ';' first).2 (hnot first mem_cons_self)
  have hothers : ';' ∉ others := fun hmem => hnot _ (mem_cons_of_mem _ hmem) rfl
  rw [returning_append, node_returnPattern, returnItems]
  refine run_literal_items.trans ?_
  rw [cons_append, run_sequence_cons, run_capture, manyOfSet, run_rounds_one, run_set_cons,
    if_pos hfirst]
  refine (longest_value hothers run_mark_cons).trans ?_
  simp [returning, returnStart, Spot.between]

theorem declaration?_of_caught {text before part rest : List Char}
    (htext : text = before ++ (part ++ rest)) (name : List Char) (start stop : Nat) :
    declaration? (declarationRegex name)
        ⟨text, start, stop, [(2, before.length, (before ++ part).length)]⟩ =
      (declaredType? (String.ofList part)).map fun type => ⟨type, "", "", start, stop⟩ := by
  have htype : (Match.mk text start stop [(2, before.length, (before ++ part).length)]).group 2 =
      String.ofList part := by
    rw [Match.group, group?_of_caught htext, Option.getD_some]
  have hother : ∀ index, (2 == index) = false → Match.group
      ⟨text, start, stop, [(2, before.length, (before ++ part).length)]⟩ index = "" := by
    intro index h
    simp [Match.group, Match.group?, h]
  have hnamed : ["directive", "type", "value", "arguments"].map (declarationRegex []).named =
      [1, 2, 3, 4] := by
    decide
  simp only [map_cons, List.cons.injEq] at hnamed
  simp only [declaration?, named_declarationRegex name, hnamed, htype, hother 1 rfl, hother 3 rfl,
    hother 4 rfl]
  rfl

theorem map_declaration?_semicolon {name text before after : List Char} (hname : IsWordName name)
    {gap type : List Char} (hgap : IsGap gap) (hstart : type.head?.any typeStartSet.has = true)
    (htype : type.all typeSet.has = true) (hend : type.getLast?.any typeEndSet.has = false)
    (htext : text = before ++ (gap ++ type ++ ' ' :: name ++ [';'] ++ after)) (fuel : Nat) :
    ((declarationRegex name).matchesLoop text (fuel + 1) false
        (.between before (gap ++ type ++ ' ' :: name ++ [';'] ++ after) [])).map
          (declaration? (declarationRegex name)) =
      ((declaredType? (String.ofList type)).map fun found =>
        ⟨found, "", "", before.length, (before ++ (gap ++ type ++ ' ' :: name ++ [';'])).length⟩) ::
        ((declarationRegex name).matchesLoop text fuel false
          (.between (before ++ (gap ++ type ++ ' ' :: name ++ [';'])) after [])).map
            (declaration? (declarationRegex name)) := by
  have hwritten : text = before ++ gap ++ (type ++ (' ' :: name ++ [';'] ++ after)) := by
    rw [htext]
    simp
  rw [matchesLoop_of_run (moves_declaration _ _)
    (run_declaration_semicolon hname hgap hstart htype hend), map_cons,
    declaration?_of_caught hwritten]

/-- A body that declares an object of the given name, assigns it and returns it. -/
structure AssignedBody (name : List Char) where
  opening : List (Statement name)
  indent : List Char
  statements : List (Statement name)
  gap : List Char
  ending : List Char
  isGap_indent : IsGap indent := by decide
  isGap_gap : IsGap gap := by decide
  returnsLast : ¬ returnStart <:+: opening.flatMap Statement.text ++ (indent ++ declaring name) ++
    (statements.flatMap Statement.text ++ gap) := by decide
  returnsOnce : ¬ returnStart <:+: ending := by decide

namespace AssignedBody
variable {name : List Char} (b : AssignedBody name)

def head : List Char := b.opening.flatMap Statement.text ++ (b.indent ++ declaring name)

def middle : List Char := b.statements.flatMap Statement.text ++ (b.gap ++ returning name)

def text : List Char := b.head ++ b.middle ++ b.ending

def stop : Nat := (b.head ++ b.middle).length

def values : List String := b.statements.filterMap Statement.value?

theorem map_group?_matches (hname : IsWordName name) :
    ((assignRegex name).matchesIn b.text b.head.length b.stop).map (·.group? 1) =
      b.values.map some := by
  have hequals : '=' ∉ b.gap ++ (returnWord ++ ' ' :: name) := by
    simp only [mem_append, mem_cons, not_or]
    exact ⟨fun h => absurd (b.isGap_gap _ h) (by decide), by decide, by decide,
      fun h => absurd (hname.isWord _ h) (by decide)⟩
  have htail : ∀ cs before fuel, (assignRegex name).matchesLoop cs fuel false
      (.between before (b.gap ++ returning name) []) = [] := by
    intro cs before fuel
    rw [returning, ← append_assoc, ← append_nil (_ ++ [';']),
      (barren_assign hname hequals).matchesLoop, matchesLoop_nil]
    rw [assignRegex, run_sequence_append, run_literal_eq_none]
    exact fun h => hname.ne_nil (prefix_nil.1 h)
  rw [text, stop, matchesIn_append]
  refine Statement.matchesLoop_flatMap hname b.statements rfl (htail _) ?_
  simp only [middle, length_append]
  omega

theorem map_declaration?_matches (hname : IsWordName name) :
    ((declarationRegex name).matchesIn b.text 0 b.stop).map (declaration? (declarationRegex name)) =
      [some ⟨"PyObject", "", "", (b.opening.flatMap Statement.text).length, b.head.length⟩,
        none] := by
  have hnil : ∀ cs before fuel, (declarationRegex name).matchesLoop cs fuel false
      (.between before [] []) = [] := by
    intro cs before fuel
    refine matchesLoop_nil (Option.eq_none_iff_forall_ne_some.2 fun r hr => ?_) fuel
    obtain ⟨u, rest, hsplit, -⟩ := exists_of_declaration hr
    exact hname.ne_nil (append_eq_nil_iff.1 (append_eq_nil_iff.1 hsplit.symm).2).1
  have hbarren : ∀ (statements : List (Statement name)) after,
      Barren (declarationRegex name) (statements.flatMap Statement.text) after := fun _ _ =>
    barren_flatMap fun s _ => s.barren_text hname
  have hobject : declaredType? (String.ofList objectWord) = some "PyObject" := by decide
  have hreturn : declaredType? (String.ofList returnWord) = none := by decide
  have hlist : b.head ++ b.middle = b.opening.flatMap Statement.text ++
      (b.indent ++ objectWord ++ ' ' :: name ++ [';'] ++
        (b.statements.flatMap Statement.text ++
          (b.gap ++ returnWord ++ ' ' :: name ++ [';'] ++ []))) := by
    simp only [head, middle, declaring, returning, append_assoc, append_nil]
  have hspot := congrArg (Spot.between [] · []) hlist
  rw [text, stop, matchesIn_zero, hspot]
  generalize b.head ++ b.middle = cs at hlist
  generalize 2 * cs.length = fuel
  rw [(hbarren b.opening _).matchesLoop, nil_append,
    map_declaration?_semicolon hname b.isGap_indent (by decide) (by decide) (by decide) hlist,
    hobject, (hbarren b.statements _).matchesLoop,
    map_declaration?_semicolon hname b.isGap_gap (by decide) (by decide) (by decide)
      (by rw [hlist]; simp only [append_assoc]), hreturn, hnil]
  simp only [Option.map_some, Option.map_none, map_nil, head, declaring, append_assoc]

theorem matches_return (hname : IsWordName name) :
    ∃ m, returnPattern.matchesIn b.text 0 b.text.length = [m] ∧ m.group 1 = String.ofList name ∧
      m.stop = b.stop := by
  have hbefore : ∀ after, Barren returnPattern
      (b.head ++ (b.statements.flatMap Statement.text ++ b.gap)) (returning name ++ after) := by
    intro after
    rw [returning_append]
    exact barren_unbordered node_returnPattern (by decide) b.returnsLast
  have hafter : Barren returnPattern b.ending [] := by
    refine barren_of_literal node_returnPattern fun u v huv hv hstarts => b.returnsOnce ?_
    rw [append_nil] at hstarts
    exact hstarts.isInfix.trans (huv ▸ (suffix_append u v).isInfix)
  have hnil : ∀ cs before, run cs returnPattern.node (.between before [] []) some = none := by
    intro cs before
    rw [node_returnPattern, run_sequence_append, run_literal_eq_none (by decide)]
  have htext : b.text = b.head ++ (b.statements.flatMap Statement.text ++ b.gap) ++
      (returning name ++ (b.ending ++ [])) := by
    simp only [text, middle, append_assoc, append_nil]
  have hspot := congrArg (Spot.between [] · []) htext
  have hmatches := matchesIn_zero (r := returnPattern) b.text []
  rw [append_nil, hspot] at hmatches
  rw [hmatches]
  generalize b.text = cs at htext
  generalize 2 * cs.length = fuel
  rw [(hbefore _).matchesLoop, nil_append,
    matchesLoop_of_run (moves_return _) (run_returning hname), hafter.matchesLoop,
    matchesLoop_nil (hnil _ _)]
  rw [returning_append, ← append_assoc] at htext
  refine ⟨_, rfl, ?_, ?_⟩
  · rw [Match.group, group?_of_caught htext, Option.getD_some]
  · simp only [stop, middle, append_assoc]

end AssignedBody

open Gen

def isNull (expression : String) : Bool := nullTexts.contains (bareExpression expression)

theorem shape_of_isNull {expression : String} (h : isNull expression = true) :
    shape false (bareExpression expression) = .null := by
  rw [isNull, contains_iff_mem] at h
  generalize bareExpression expression = s at h
  simp only [nullTexts, mem_cons, not_mem_nil, or_false] at h
  rcases h with rfl | rfl | rfl | rfl | rfl <;> decide

/-- The union of types as they are printed, each once and in order; nothing if they say nothing. -/
def knownUnion? (texts : List String) : Option TypeHint :=
  TypeHint.ofList? (texts.map fun s => (TypeExpr.printText s).1).eraseDups

section
variable {project : Project} {c : Code} {ask : Ask} {stop : Nat} {type : String → TypeExpr}

def caughtOutcome (type : String → TypeExpr) (values : List String) : Except Fault (List String) :=
  if values.any isNull then .error .nullResult
  else .ok (values.flatMap fun e => contributions (type e))

theorem ends_of_isNull {e : String} (h : isNull e = true) (ask : Ask) (c : Code) (stop : Nat) :
    Ends project (step ask c e stop false) (.error .nullResult) := by
  intro s
  unfold step
  dsimp only
  rw [shape_of_isNull h]
  rfl

theorem ends_of_known {e known : String} (h : shape false (bareExpression e) = .known known)
    (ask : Ask) (c : Code) (stop : Nat) :
    Ends project (step ask c e stop false) (.ok (.text known)) := by
  intro s
  unfold step
  dsimp only
  rw [h]
  rfl

theorem ends_caughtTypes {ms : List Match} {values : List String}
    (hms : ms.map (·.group? 1) = values.map some)
    (hask : ∀ e ∈ values, Ends project (ask e stop false)
      (if isNull e then .error .nullResult else .ok (type e))) :
    Ends project (caughtTypes ask stop ms) (caughtOutcome type values) := by
  induction values generalizing ms with
  | nil =>
    obtain rfl := map_eq_nil_iff.1 hms
    exact fun _ => rfl
  | cons e values ih =>
    obtain ⟨m, ms, rfl, hm, hms⟩ := map_eq_cons_iff.1 hms
    obtain ⟨hfirst, hrest⟩ := forall_mem_cons.1 hask
    have hcaptured : captured m 1 = return e := by
      rw [captured, hm]
    rw [caughtTypes, hcaptured, pure_bind, caughtOutcome, any_cons]
    cases hnull : isNull e with
    | true =>
      rw [hnull, if_pos rfl] at hfirst
      exact (hfirst.element (by rintro ⟨⟩)).bind_error
    | false =>
      rw [hnull, if_neg Bool.false_ne_true] at hfirst
      rw [Bool.false_or, flatMap_cons]
      refine (hfirst.element (by rintro ⟨⟩)).bind ?_
      have hothers := (ih hms hrest).bind_pure (contributions (type e) ++ ·)
      rw [caughtOutcome, apply_ite (Except.map _)] at hothers
      exact hothers

def assignedUnion (texts : List String) : TypeExpr :=
  let found := TypeExpr.unionOfTexts texts
  if found.alternatives.isEmpty then .any else found

theorem assignedUnion_ne_text (texts : List String) (s : String) :
    assignedUnion texts ≠ .text s := by
  rw [assignedUnion, TypeExpr.unionOfTexts_eq]
  split <;> rintro ⟨⟩

theorem ofList?_assignedUnion (texts : List String) :
    TypeHint.ofList? (TypeExpr.unionOfTexts (assignedUnion texts).printed).printed =
      knownUnion? texts := by
  rw [knownUnion?, ← TypeExpr.printed_unionOfTexts_printed, assignedUnion]
  split
  · next hempty =>
    rw [TypeExpr.printed_unionOfTexts texts]
    rw [TypeExpr.unionOfTexts_eq, TypeExpr.alternatives, isEmpty_map,
      List.isEmpty_iff] at hempty
    have hany : (TypeExpr.unionOfTexts TypeExpr.any.printed).printed = [TypeHint.anyText] := by
      decide
    rw [hempty, hany]
    rfl
  · rfl

theorem ends_returnTypeBy {m : Match} {texts : List String}
    (hm : c.matches returnPattern 0 c.body.length = [m])
    (h : Ends project (returnedTexts ask m) (.ok texts)) :
    Ends project (returnTypeBy ask c)
      (.ok (TypeHint.ofList? (TypeExpr.unionOfTexts texts).printed)) := by
  have hall : Ends project (allReturnedTexts ask [m]) (.ok (texts ++ [])) := h.bind fun _ => rfl
  unfold returnTypeBy
  rw [hm]
  rw [append_nil] at hall
  refine hall.bind ?_
  rw [TypeExpr.printed_unionOfTexts, TypeExpr.unionOfTexts_eq]
  dsimp only
  rw [TypeExpr.walk_texts]
  dsimp only
  cases TypeHint.ofList? (texts.eraseDups.map fun s => (TypeExpr.printText s).1) with
  | none => exact fun _ => rfl
  | some hint => exact fun _ => rfl

theorem AssignedBody.ends_variableType {name : String} (hname : IsLocalName name)
    (b : AssignedBody name.toList) (hbody : c.body = b.text)
    (hask : ∀ e ∈ b.values, Ends project (ask e b.stop false)
      (if isNull e then .error .nullResult else .ok (type e))) :
    Ends project (variableType ask c name b.stop)
      ((caughtOutcome type b.values).map assignedUnion) := by
  have hword := hname.isWordName
  have hlast : lastDeclaration? c name b.stop =
      return some ⟨"PyObject", "", "", (b.opening.flatMap Statement.text).length,
        b.head.length⟩ := by
    have hfound := b.map_declaration?_matches hword
    have hfind : ∀ ms : List Match,
        ms.reverse.findSome? (declaration? (declarationRegex name.toList)) =
          (ms.map (declaration? (declarationRegex name.toList))).reverse.findSome? id := by
      intro ms
      rw [← map_reverse, findSome?_map, Function.id_comp]
    rw [lastDeclaration?_eq hword, Code.matches, hbody, hfind, hfound]
    rfl
  have hassigned : Ends project (assignedType ask c name b.head.length b.stop)
      ((caughtOutcome type b.values).map assignedUnion) := by
    have hmatches := b.map_group?_matches hword
    rw [← hbody] at hmatches
    have hcaught := ends_caughtTypes hmatches hask
    rw [assignedType, patternOf, read_assignPattern hword]
    change Ends project (caughtTypes ask b.stop _ >>= fun texts => return assignedUnion texts) _
    exact hcaught.bind_pure assignedUnion
  unfold variableType
  dsimp only
  rw [hname.notThis, if_neg Bool.false_ne_true, hlast, pure_bind]
  dsimp only
  rw [typeOfDeclaration]
  dsimp only
  rw [if_pos (by decide), if_neg (by decide), if_neg (by decide), pure_bind, if_neg (by decide),
    if_pos (by decide)]
  cases hcaught : caughtOutcome type b.values with
  | error fault =>
    rw [hcaught] at hassigned
    exact hassigned.bind_error
  | ok texts =>
    rw [hcaught] at hassigned
    refine hassigned.bind ?_
    rw [Except.map]
    cases hunion : assignedUnion texts with
    | any => exact fun _ => rfl
    | union items imports => exact fun _ => rfl
    | text s => exact absurd hunion (assignedUnion_ne_text texts s)

/-- A body that declares an object, assigns it and returns it has the union of the types of the
assigned values as its type, as long as none of them is a null literal. If one is, nothing is known
of the result. The values are asked for one question deeper than the variable. -/
theorem returnType_of_assignments {name : String} (hname : IsLocalName name)
    (b : AssignedBody name.toList) (hbody : c.body = b.text) (type : String → TypeExpr)
    (htypes : ∀ e ∈ b.values, isNull e = false →
      Ends project (typeWithin 899 c e b.stop false) (.ok (type e))) :
    Ends project (returnType c) (.ok (if b.values.any isNull then none
      else knownUnion? (b.values.flatMap fun e => contributions (type e)))) := by
  have hask : ∀ e ∈ b.values, Ends project (typeWithin 899 c e b.stop false)
      (if isNull e then .error .nullResult else .ok (type e)) := by
    intro e he
    cases hnull : isNull e with
    | true => exact ends_of_isNull hnull (typeWithin 898 c) c b.stop
    | false => exact htypes e he hnull
  have hvariable := b.ends_variableType hname hbody hask
  obtain ⟨m, hmatches, hgroup, hstop⟩ := b.matches_return hname.isWordName
  rw [String.ofList_toList] at hgroup
  have helement : Ends project (element (expressionType c (m.group 1) m.stop false))
      ((caughtOutcome type b.values).map assignedUnion) := by
    rw [hgroup, hstop, expressionType_eq, step_of_isPlainName hname.toIsPlainName]
    refine hvariable.element ?_
    rw [caughtOutcome]
    split <;> rintro ⟨⟩
  have hreturned : Ends project (returnedTexts (expressionType c) m)
      (.ok (if b.values.any isNull then [] else
        (assignedUnion (b.values.flatMap fun e => contributions (type e))).printed)) := by
    unfold returnedTexts
    cases hnull : b.values.any isNull with
    | true =>
      rw [caughtOutcome, hnull, if_pos rfl] at helement
      exact helement.bind_error.tryCatch_error fun _ => rfl
    | false =>
      rw [caughtOutcome, hnull, if_neg Bool.false_ne_true] at helement
      exact (helement.bind fun _ => rfl).tryCatch_ok
  refine fun s => (ends_returnTypeBy ?_ hreturned s).trans ?_
  · rw [Code.matches, hbody, hmatches]
  · split
    · rfl
    · rw [ofList?_assignedUnion]

end

def labelBody : AssignedBody "v".toList where
  opening := []
  indent := []
  statements :=
    [.assigned { indent := [], left := [' '], right := [' '], value := "Py::Long(1)".toList },
      .other { front := "count++".toList, last := ';' },
      .assigned { indent := [' '], left := [], right := [], value := "Py::String(s)".toList }]
  gap := [' ']
  ending := []

def labelType (expression : String) : TypeExpr :=
  if expression = "Py::Long(1)" then .text "int" else .text "str"

theorem returnType_of_assignments_label :
    Ends .empty (returnType ⟨labelBody.text, some "", ""⟩) (.ok (knownUnion? ["int", "str"])) := by
  have hname : IsLocalName "v" :=
    ⟨⟨by decide, by decide, by decide, by decide⟩, .of_check (by decide +kernel), by decide,
      by decide⟩
  have hvalues : labelBody.values = ["Py::Long(1)", "Py::String(s)"] := by decide
  have hlong : shape false (bareExpression "Py::Long(1)") = .known "int" := by decide +kernel
  have hstring : shape false (bareExpression "Py::String(s)") = .known "str" := by decide +kernel
  have htypes : ∀ e ∈ labelBody.values, isNull e = false →
      Ends .empty (typeWithin 899 ⟨labelBody.text, some "", ""⟩ e labelBody.stop false)
        (.ok (labelType e)) := by
    rw [hvalues, forall_mem_cons, forall_mem_singleton]
    exact ⟨fun _ => ends_of_known hlong (typeWithin 898 _) _ _,
      fun _ => ends_of_known hstring (typeWithin 898 _) _ _⟩
  have hends := returnType_of_assignments hname labelBody rfl labelType htypes
  have hnull : labelBody.values.any isNull = false := by
    rw [hvalues]
    decide +kernel
  rw [hnull, hvalues] at hends
  exact hends

/-- A number and then a null literal are assigned: nothing is known of the result. -/
theorem null_hides_assigned_number :
    ((returnText (Code.make "PyObject* v;v = Py::Long(1);v = nullptr;return v;" "" "")).run
      .empty {}).1 = .ok "object" := by
  decide +kernel

end BindingStubs.Inference
