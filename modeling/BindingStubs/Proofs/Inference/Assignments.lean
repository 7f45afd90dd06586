import BindingStubs.Proofs.ClassSection.Definition
import BindingStubs.Proofs.Inference.Renaming

set_option autoImplicit false

/-! # Declarations and assignments of a name -/

namespace BindingStubs.Inference

open Pattern ClassSection List

def isDeclaring (c : Char) : Bool :=
  Text.isWord c || Text.isBlank c || [':', '<', '>', '*', ',', '#'].contains c

theorem isDeclaring_of_isWord {c : Char} (h : Text.isWord c = true) : isDeclaring c = true := by
  simp [isDeclaring, h]

theorem isDeclaring_of_isBlank {c : Char} (h : Text.isBlank c = true) : isDeclaring c = true := by
  simp [isDeclaring, h]

theorem not_isBlank_of_isWord {c : Char} (h : Text.isWord c = true) : Text.isBlank c = false := by
  rw [← Bool.not_eq_true]
  exact fun hblank => Bool.false_ne_true ((Text.not_isWord_of_isBlank hblank).symm.trans h)

def Declares (cs : CharSet) : Prop := ∀ c, cs.has c = true → isDeclaring c = true

theorem declares_markSet {d : Char} (hd : isDeclaring d = true) : Declares (markSet d) := by
  intro c hc
  rw [markSet, has_charItem, beq_iff_eq] at hc
  rwa [← hc]

theorem declares_blankSet : Declares blankSet :=
  fun c hc => isDeclaring_of_isBlank (has_blankSet c ▸ hc)

theorem declares_wordSet : Declares wordSet :=
  fun c hc => isDeclaring_of_isWord (has_wordSet c ▸ hc)

theorem declares_typeSet : Declares typeSet := by
  intro c hc
  simp only [typeSet, has_set, any_cons, any_nil, has_kind, has_char, Bool.bne_false,
    Bool.or_false, Bool.or_eq_true, beq_iff_eq, Char.toNat_inj] at hc
  rcases hc with h | rfl | rfl | rfl | rfl | h
  · exact isDeclaring_of_isWord h
  · decide
  · decide
  · decide
  · decide
  · exact isDeclaring_of_isBlank h

section
variable {text before after name : List Char} {caught : List (Nat × Nat × Nat)} {next : Next}

theorem exists_of_runName {r : Spot}
    (h : runName text name (.between before after caught) next = some r) :
    ∃ u rest, after = u ++ (name ++ rest) ∧ ∀ c ∈ u, isDeclaring c = true := by
  have hnode : Node.Goes (fun c => isDeclaring c = true) (.seq (manyOfSet blankSet 0)
      (.seq (.rounds earlierNode 0 none .most) (.wordEdge false true))) :=
    ⟨declares_blankSet, ⟨trivial, declares_wordSet, declares_blankSet,
      declares_markSet (by decide), declares_blankSet⟩, trivial⟩
  obtain ⟨u, rest, caught', rfl, hu, hname⟩ := exists_goes_of_run hnode h
  by_cases hstarts : name <+: rest
  · obtain ⟨rest, rfl⟩ := hstarts
    exact ⟨u, rest, rfl, hu⟩
  · rw [run_literal_eq_none hstarts] at hname
    cases hname

theorem isWord_of_typeStartSet {c : Char} (h : typeStartSet.has c = true) :
    Text.isWord c = true := by
  have hboth : Text.isDecimal c = false ∧ Text.isWord c = true := by
    simpa [typeStartSet, has_set, has_kind, CharKind.has] using h
  exact hboth.2

theorem exists_of_declaration {r : Spot}
    (h : run text (declarationRegex name).node (.between before after caught) next = some r) :
    ∃ u rest, after = u ++ (name ++ rest) ∧ (∀ c ∈ u, isDeclaring c = true) ∧
      ∃ c ∈ u, Text.isWord c = true := by
  have hfront : Node.Goes (fun c => isDeclaring c = true)
      (.seq (.rounds directiveNode 0 (some 1) .most) (.atomic (manyOfSet blankSet 0))) :=
    ⟨declares_markSet (by decide), declares_blankSet⟩
  have htype : Node.Goes (fun c => isDeclaring c = true)
      (.seq (manyOfSet typeSet 0) (.behind false 1 (.set typeEndSet))) :=
    ⟨declares_typeSet, trivial⟩
  rw [run_declarationRegex] at h
  obtain ⟨u, rest, caught₁, rfl, hu, h⟩ := exists_goes_of_run hfront h
  cases rest with
  | nil => cases h
  | cons c rest =>
    rw [run_capture, typeNode, run_seq, run_set_cons] at h
    split_ifs at h with hc
    obtain ⟨v, rest, caught₂, rfl, hv, h⟩ := exists_goes_of_run htype h
    obtain ⟨w, rest, rfl, hw⟩ := exists_of_runName h
    have hword := isWord_of_typeStartSet hc
    refine ⟨u ++ c :: (v ++ w), rest, by simp, ?_, c, by simp, hword⟩
    simp only [forall_mem_append, forall_mem_cons]
    exact ⟨hu, isDeclaring_of_isWord hword, hv, hw⟩

theorem exists_of_declaration_stretch (hname : IsWordName name) {word u v : List Char} {c : Char}
    {r : Spot} (hc : isDeclaring c = false) (huv : u ++ v = word ++ [c]) (hv : v ≠ [])
    (h : run text (declarationRegex name).node (.between before (v ++ after) caught) next =
      some r) :
    ∃ front, front ++ name <:+: word ∧ ∃ d ∈ front, Text.isWord d = true := by
  obtain ⟨v, rfl, rfl⟩ := exists_concat_of_append huv hv
  obtain ⟨front, rest, hsplit, hfront, hword⟩ := exists_of_declaration h
  have hnot : c ∉ front ++ name := fun hmem => Bool.false_ne_true <| hc.symm.trans <|
    (mem_append.1 hmem).elim (hfront c) fun hmem => isDeclaring_of_isWord (hname.isWord c hmem)
  have hstarts : front ++ name <+: v ++ c :: after := by
    refine ⟨rest, ?_⟩
    rw [append_assoc, ← hsplit, append_assoc, singleton_append]
  have hinside := (Chars.prefix_of_notMem hnot hstarts).isInfix
  exact ⟨front, hinside.trans (suffix_append u v).isInfix, hword⟩

theorem barren_declaration (hname : IsWordName name) {word : List Char} {c : Char}
    (hc : isDeclaring c = false) (hword : ¬ name <:+: word) :
    Barren (declarationRegex name) (word ++ [c]) after := by
  intro text before caught u v huv hv
  rw [Option.eq_none_iff_forall_ne_some]
  intro r hr
  obtain ⟨front, hfront, -⟩ := exists_of_declaration_stretch hname hc huv hv hr
  exact hword ((suffix_append front name).isInfix.trans hfront)

theorem barren_declaration_name (hname : IsWordName name) {gap word : List Char} {c : Char}
    (hc : isDeclaring c = false) (hgap : IsGap gap) (hword : IsGap word) :
    Barren (declarationRegex name) (gap ++ name ++ word ++ [c]) after := by
  intro text before caught u v huv hv
  rw [Option.eq_none_iff_forall_ne_some]
  intro r hr
  obtain ⟨front, hfront, d, hd, hisWord⟩ := exists_of_declaration_stretch hname hc huv hv hr
  -- the name and the type before it have more characters of words than there are
  have hblank : ∀ {gap : List Char}, IsGap gap → gap.countP Text.isWord = 0 := fun hgap =>
    countP_eq_zero.2 fun e he => by simp [Text.not_isWord_of_isBlank (hgap e he)]
  have hcount := hfront.sublist.countP_le (p := Text.isWord)
  have hpos : 0 < front.countP Text.isWord := countP_pos_iff.2 ⟨d, hd, hisWord⟩
  simp only [countP_append, hblank hgap, hblank hword] at hcount
  omega

theorem longest_of_last {has : Char → Bool} {u v : List Char} {c : Char} {r : Spot}
    (hu : ∀ d ∈ u, has d = true) (hv : ∀ d ∈ v, has d = true) (hc : has c = false)
    (hlonger : ∀ x y, x ++ y = v → x ≠ [] →
      next (.between (before ++ u ++ x) (y ++ c :: after) caught) = none)
    (h : next (.between (before ++ u) (v ++ c :: after) caught) = some r) :
    longest has next (.between before (u ++ (v ++ c :: after)) caught) = some r := by
  induction u generalizing before with
  | cons d u ih =>
    rw [forall_mem_cons] at hu
    rw [cons_append, longest_of_has hu.1, ih hu.2 (by simpa using hlonger) (by simpa using h),
      Option.some_or]
  | nil =>
    rw [nil_append]
    rw [append_nil] at hlonger h
    rw [← h]
    clear h
    induction v generalizing before with
    | nil => rw [nil_append, longest_of_not hc]
    | cons d v ih =>
      rw [forall_mem_cons] at hv
      have hnext := hlonger [d] v rfl (cons_ne_nil _ _)
      rw [cons_append, longest_of_has hv.1, ih hv.2, hnext, Option.none_or]
      intro x y hxy hx
      rw [append_assoc]
      exact hlonger (d :: x) y (congrArg (d :: ·) hxy) (cons_ne_nil _ _)

theorem longest_value {value : List Char} {r : Spot} (hvalue : ';' ∉ value)
    (h : next (.between (before ++ value) (';' :: after) caught) = some r) :
    longest valueSet.has next (.between before (value ++ ';' :: after) caught) = some r := by
  refine longest_of_last (v := []) (fun d hd => ?_) (forall_mem_nil _) (by decide) ?_ h
  · exact (has_allBut ';' d).2 fun heq => hvalue (heq ▸ hd)
  · intro x y hxy hx
    exact absurd (append_eq_nil_iff.1 hxy).1 hx

theorem run_wordEdge (h : before.getLast?.any Text.isWord ≠ after.head?.any Text.isWord) :
    run text (.wordEdge false true) (.between before after caught) next =
      next (.between before after caught) := by
  have hne : (before.isEmpty && after.isEmpty) = false := by
    by_contra hempty
    simp only [Bool.not_eq_false, Bool.and_eq_true, List.isEmpty_iff] at hempty
    exact h (by rw [hempty.1, hempty.2]; rfl)
  rw [run, Spot.isWordEdge_between, hne, bne_iff_ne.2 h]
  rfl

theorem runEnd_semicolon :
    runEnd text (.between before (';' :: after) caught) some =
      some (.between (before ++ [';']) after caught) := by
  have hend : run text (.set endSet) (.between before (';' :: after) caught) some =
      some (.between (before ++ [';']) after caught) := by
    rw [run_set_cons, if_pos (by decide)]
  have hlater : ∀ next, run text laterNode (.between before (';' :: after) caught) next = none := by
    intro next
    rw [laterNode, run_seq, run_set_cons, if_neg (by decide)]
  have hoptionsNode : ∀ cs, optionsNode ≠ .set cs := by rintro _ ⟨⟩
  have hlaterNode : ∀ cs, laterNode ≠ .set cs := by rintro _ ⟨⟩
  change longest blankSet.has _ _ = _
  rw [longest_of_not (by decide), run_optional hoptionsNode, optionsNode, run_alt,
    run_rounds_of_ne hlaterNode, manyOf_succ, hlater, Option.none_or, hend, Option.some_or,
    Option.some_or]

theorem run_earlier_eq_none (hname : IsWordName name) :
    run text earlierNode (.between before (name ++ ';' :: after) caught) next = none := by
  rw [Option.eq_none_iff_forall_ne_some]
  intro r hr
  have hnode : Node.Goes (fun c => isHeadChar c = true)
      (.seq (.wordEdge false true) (.seq (manyOfSet wordSet 1) (manyOfSet blankSet 0))) :=
    ⟨trivial, fun c hc => Bool.or_eq_true_iff.2 (.inl (has_wordSet c ▸ hc)),
      fun c hc => Bool.or_eq_true_iff.2 (.inr (has_blankSet c ▸ hc))⟩
  obtain ⟨u, rest, caught', hsplit, hu, h⟩ := exists_goes_of_run hnode hr
  cases rest with
  | nil => cases h
  | cons c rest =>
    rw [run_seq, run_set_cons] at h
    split_ifs at h with hc
    rw [markSet, has_charItem, beq_iff_eq] at hc
    subst hc
    have hnot : ';' ∉ u ++ [','] := by
      rw [mem_append, not_or, mem_singleton]
      exact ⟨fun hmem => absurd (hu _ hmem) (by decide), by decide⟩
    have hstarts : u ++ [','] <+: name ++ ';' :: after := by
      rw [hsplit]
      exact ⟨rest, by simp⟩
    have hcomma : ',' ∈ name := (Chars.prefix_of_notMem hnot hstarts).subset (by simp)
    exact absurd (hname.isWord _ hcomma) (by decide)

theorem any_getLast?_name (hname : IsWordName name) (before : List Char) :
    (before ++ name).getLast?.any Text.isWord = true := by
  rw [List.getLast?_append, getLast?_eq_some_getLast hname.ne_nil]
  exact hname.isWord _ (getLast_mem _)

theorem runName_semicolon (hname : IsWordName name) :
    runName text name (.between before (' ' :: (name ++ ';' :: after)) caught) some =
      some (.between (before ++ ' ' :: name ++ [';']) after caught) := by
  obtain ⟨first, others, rfl⟩ := exists_cons_of_ne_nil hname.ne_nil
  have hword : Text.isWord first = true := hname.isWord first mem_cons_self
  have hlast := any_getLast?_name hname (before ++ [' '])
  have hearlierNode : ∀ cs, earlierNode ≠ .set cs := by rintro _ ⟨⟩
  change longest blankSet.has _ _ = _
  rw [longest_of_has (by decide), cons_append,
    longest_of_not (by rw [has_blankSet, not_isBlank_of_isWord hword]),
    run_rounds_of_ne hearlierNode, manyOf_succ, ← cons_append, run_earlier_eq_none hname,
    Option.none_or, run_wordEdge (by simp [hword]; decide), run_literal_append,
    run_wordEdge (by rw [hlast, head?_cons, Option.any_some]; decide), runEnd_semicolon,
    Option.some_or]
  simp

theorem run_directive_eq_none {c : Char} (hc : c ≠ '#') :
    run text directiveNode (.between before (c :: after) caught) next = none := by
  rw [directiveNode, run_capture, run_set_cons, markSet, has_charItem,
    beq_eq_false_iff_ne.2 hc.symm, if_neg Bool.false_ne_true]

theorem run_declaration_semicolon (hname : IsWordName name) {gap type : List Char}
    (hgap : IsGap gap) (hstart : type.head?.any typeStartSet.has = true)
    (htype : type.all typeSet.has = true) (hend : type.getLast?.any typeEndSet.has = false) :
    run text (declarationRegex name).node
        (.between before (gap ++ type ++ ' ' :: name ++ [';'] ++ after) []) some =
      some (.between (before ++ (gap ++ type ++ ' ' :: name ++ [';'])) after
        [(2, (before ++ gap).length, (before ++ gap ++ type).length)]) := by
  cases type with
  | nil => cases hstart
  | cons c type =>
    rw [head?_cons, Option.any_some] at hstart
    rw [all_cons, Bool.and_eq_true, all_eq_true] at htype
    have hword : Text.isWord c = true := isWord_of_typeStartSet hstart
    have hdirectiveNode : ∀ cs, directiveNode ≠ .set cs := by rintro _ ⟨⟩
    have hdirective : ∀ next rest,
        run text directiveNode (.between before (gap ++ c :: rest) []) next = none := by
      intro next rest
      cases gap with
      | nil => exact run_directive_eq_none fun h => absurd hword (h ▸ by decide)
      | cons b gap =>
        exact run_directive_eq_none fun h => absurd (hgap b mem_cons_self) (h ▸ by decide)
    have hgapRun : ∀ rest,
        run text (manyOfSet blankSet 0) (.between before (gap ++ c :: rest) []) some =
          some (.between (before ++ gap) (c :: rest) []) := by
      intro rest
      change run text (sequence [gapItem]) _ some = _
      exact run_gap_append hgap (not_isBlank_of_isWord hword) rfl
    have htext : gap ++ c :: type ++ ' ' :: name ++ [';'] ++ after =
        gap ++ c :: (type ++ (' ' :: name ++ ';' :: after)) := by
      simp
    rw [htext, run_declarationRegex, run_optional hdirectiveNode, hdirective, Option.none_or,
      run_atomic, hgapRun, Option.bind_some, run_capture, typeNode, run_seq, run_set_cons,
      if_pos hstart, run_seq]
    change longest typeSet.has _ _ = _
    refine longest_of_last htype.2 ?_ (by decide) ?_ ?_
    · exact forall_mem_cons.2
        ⟨by decide, fun d hd => takesWords_typeSet d (hname.isWord d hd)⟩
    · intro x y hxy hx
      rw [run_behind_set, Option.eq_none_iff_forall_ne_some]
      intro r hr
      split_ifs at hr with hlast
      -- after the blank the type would end in it, and after more of the name that is cut
      obtain ⟨u, rest, hsplit, hu⟩ := exists_of_runName hr
      have hnot : ';' ∉ u ++ name := fun hmem => (mem_append.1 hmem).elim
        (fun hmem => absurd (hu _ hmem) (by decide))
        fun hmem => absurd (hname.isWord _ hmem) (by decide)
      have hstarts : u ++ name <+: y ++ ';' :: after :=
        ⟨rest, (append_assoc ..).trans hsplit.symm⟩
      have hlength := (Chars.prefix_of_notMem hnot hstarts).length_le
      have htotal := congrArg List.length hxy
      simp only [length_append, length_cons] at hlength htotal
      obtain ⟨d, rfl⟩ : ∃ d, x = [d] := length_eq_one_iff.1 (by
        have hpos := length_pos_iff.2 hx
        omega)
      obtain ⟨rfl, -⟩ := cons_eq_cons.1 hxy
      exact hlast (by rw [getLast?_concat]; decide)
    · rw [run_behind_set, if_neg]
      · refine (runName_semicolon hname).trans ?_
        simp [Spot.between]
      · rw [append_assoc _ [c], singleton_append, List.getLast?_append,
          getLast?_eq_some_getLast (cons_ne_nil _ _), Option.some_or,
          ← getLast?_eq_some_getLast, hend]
        exact Bool.false_ne_true

end

def assignItems : List Item :=
  [Format.edgeItem, gapItem, markItem '=', gapItem,
    ⟨.bundle, .capture 1 (manyOfSet valueSet 0)⟩, markItem ';']

def assignRegex (name : List Char) : Regex where
  node := sequence (literalItems {} name ++ assignItems)
  captures := 1
  names := []

def assignState : ReadState := { rest := [], next := 2, widths := [(1, 0, none)] }

theorem readItems_assignText (n : Nat) (read : List Written) :
    (readItems (n + 20) 0 true read).run { rest := tokens "\\b\\s*=\\s*([^;]*);".toList } =
      .ok (itemsOf (assignItems.reverse.map .item ++ read), assignState) := by
  cbv

theorem read_assignPattern {name : String} (hname : IsWordName name.toList) :
    Pattern.read {} (name ++ "\\b\\s*=\\s*([^;]*);") = .ok (assignRegex name.toList) :=
  read_name_append 20 hname.ne_nil (fun c hc => notMem_specialChars (hname.isWord c hc)) (by decide)
    (by decide) readItems_assignText rfl rfl rfl rfl rfl

theorem moves_assign (text name : List Char) : (assignRegex name).Moves text :=
  Regex.moves_of_last (literalItems {} name ++ assignItems.dropLast) (markItem ';')
    (by rw [append_assoc]; rfl) rfl

section
variable {text before after name : List Char}

theorem run_assign (hname : IsWordName name) {left right value : List Char} (hleft : IsGap left)
    (hright : IsGap right) (hstop : ';' ∉ value) (hhead : value.head?.any Text.isBlank = false) :
    run text (assignRegex name).node
        (.between before (name ++ left ++ '=' :: right ++ value ++ [';'] ++ after) []) some =
      some (.between (before ++ (name ++ left ++ '=' :: right ++ value ++ [';'])) after
        [(1, (before ++ (name ++ left ++ '=' :: right)).length,
          (before ++ (name ++ left ++ '=' :: right) ++ value).length)]) := by
  have hvalue : ∀ pre,
      run text (sequence [⟨.bundle, .capture 1 (manyOfSet valueSet 0)⟩, markItem ';'])
        (.between pre (value ++ ';' :: after) []) some =
      some (.between (pre ++ value ++ [';']) after [(1, pre.length, (pre ++ value).length)]) := by
    intro pre
    rw [run_sequence_cons, run_capture]
    exact longest_value hstop run_mark_cons
  obtain ⟨d, rest, hd, hblank⟩ : ∃ d rest, value ++ ';' :: after = d :: rest ∧
      Text.isBlank d = false := by
    cases value with
    | nil => exact ⟨';', after, rfl, by decide⟩
    | cons d value => exact ⟨d, value ++ ';' :: after, rfl, hhead⟩
  have hedge : ((left ++ '=' :: (right ++ d :: rest)).head?.any Text.isWord) = false := by
    cases left with
    | nil => exact (by decide : Text.isWord '=' = false)
    | cons b left => exact Text.not_isWord_of_isBlank (hleft b mem_cons_self)
  have htext : name ++ left ++ '=' :: right ++ value ++ [';'] ++ after =
      name ++ (left ++ '=' :: (right ++ d :: rest)) := by
    rw [← hd]
    simp
  rw [htext, assignRegex, run_literal_items, assignItems, run_sequence_cons]
  refine (run_wordEdge (by rw [any_getLast?_name hname, hedge]; decide)).trans ?_
  refine run_gap_append hleft (by decide) ?_
  rw [run_mark_cons]
  refine run_gap_append hright hblank ?_
  rw [← hd, hvalue]
  simp

theorem barren_assign (hname : IsWordName name) {word : List Char} (h : '=' ∉ word) :
    Barren (assignRegex name) (word ++ [';']) after := by
  intro text before caught u v huv hv
  obtain ⟨v, rfl, rfl⟩ := exists_concat_of_append huv hv
  rw [assignRegex, run_sequence_append, Option.eq_none_iff_forall_ne_some]
  intro r hr
  by_cases hstarts : name <+: v ++ [';'] ++ after
  · obtain ⟨rest, hrest⟩ := hstarts
    have hnode : Node.Goes (fun c => Text.isBlank c = true)
        (.seq (.wordEdge false true) (manyOfSet blankSet 0)) :=
      ⟨trivial, fun c hc => (has_blankSet c).symm.trans hc⟩
    rw [← hrest, run_literal_append] at hr
    obtain ⟨gap, rest, caught', rfl, hgap, hr⟩ := exists_goes_of_run hnode hr
    cases rest with
    | nil => cases hr
    | cons c rest =>
      obtain rfl : c = '=' := by
        by_contra hc
        cases hr.symm.trans (run_mark_of_ne hc)
      have hnot : ';' ∉ name ++ (gap ++ ['=']) := by
        simp only [mem_append, mem_singleton, not_or]
        exact ⟨fun hmem => absurd (hname.isWord _ hmem) (by decide),
          fun hmem => absurd (hgap _ hmem) (by decide), by decide⟩
      have hstarts : name ++ (gap ++ ['=']) <+: v ++ ';' :: after := by
        refine ⟨rest, ?_⟩
        simpa using hrest
      exact h (mem_append_right u ((Chars.prefix_of_notMem hnot hstarts).subset (by simp)))
  · rw [run_literal_eq_none hstarts] at hr
    cases hr

end

end BindingStubs.Inference
