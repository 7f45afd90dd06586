import BindingStubs.Proofs.Inference.Declaration
import BindingStubs.Proofs.Pattern.Correspondence

set_option autoImplicit false

/-! # Declarations and return statements of a template -/

namespace BindingStubs.Inference

open Pattern Pattern.Template List

theorem not_has_char {d : Char} (hd : Text.isWord d = false) {c : Char} (hc : Text.isWord c = true) :
    ClassItem.has .none c.toNat (.char d.toNat) = false := by
  rw [has_char, beq_eq_false_iff_ne]
  intro h
  rw [← Char.ofNat_toNat c, ← h, Char.ofNat_toNat, hd] at hc
  cases hc

theorem not_has_blank {c : Char} (hc : Text.isWord c = true) :
    ClassItem.has .none c.toNat (.kind .blank false false) = false := by
  rw [has_kind, Bool.bne_false]
  by_contra h
  rw [Bool.not_eq_false] at h
  rw [Text.not_isWord_of_isBlank h] at hc
  cases hc

theorem has_word {c : Char} (hc : Text.isWord c = true) :
    ClassItem.has .none c.toNat (.kind .word false false) = true := by
  rw [has_kind, Bool.bne_false]
  exact hc

theorem leavesWords_blankSet : LeavesWords blankSet := by
  intro c hc
  rw [blankSet, has_set, any_cons, not_has_blank hc]
  rfl

theorem leavesWords_markSet {d : Char} (hd : Text.isWord d = false) : LeavesWords (markSet d) := by
  intro c hc
  rw [markSet, has_set, any_cons, not_has_char hd hc]
  rfl

theorem leavesWords_typeEndSet : LeavesWords typeEndSet := by
  intro c hc
  rw [typeEndSet, has_set, any_cons, any_cons, not_has_char (by decide) hc,
    not_has_blank hc]
  rfl

theorem leavesWords_endSet : LeavesWords endSet := by
  intro c hc
  rw [endSet, has_set, any_cons, any_cons, not_has_char (by decide) hc,
    not_has_char (by decide) hc]
  rfl

theorem takesWords_wordSet : TakesWords wordSet := by
  intro c hc
  rw [wordSet, has_set, any_cons, has_word hc]
  rfl

theorem takesWords_typeSet : TakesWords typeSet := by
  intro c hc
  rw [typeSet, has_set, any_cons, has_word hc]
  rfl

theorem takesWords_valueSet : TakesWords valueSet := by
  intro c hc
  rw [valueSet, has_set, any_cons, not_has_char (by decide) hc]
  rfl

theorem has_typeStartSet {c : Char} (hc : Text.isWord c = true) (hdecimal : Text.isDecimal c = false) :
    typeStartSet.has c = true := by
  rw [typeStartSet, has_set, any_cons, any_cons, has_kind, has_kind]
  simp [CharKind.has, hc, hdecimal]

def optionsNode : Node := .alt (.rounds laterNode 0 none .most) (.alt valueNode argumentsNode)

def runEnd (text : List Char) (s : Spot) (next : Next) : Option Spot :=
  run text (manyOfSet blankSet 0) s fun a =>
    run text (.rounds optionsNode 0 (some 1) .most) a fun b => run text (.set endSet) b next

def runName (text name : List Char) (s : Spot) (next : Next) : Option Spot :=
  run text (manyOfSet blankSet 0) s fun a =>
    run text (.rounds earlierNode 0 none .most) a fun b =>
      run text (.wordEdge false true) b fun c =>
        run text (sequence (literalItems {} name)) c fun d =>
          run text (.wordEdge false true) d fun e => runEnd text e next

theorem run_declarationRegex (text name : List Char) (s : Spot) (next : Next) :
    run text (declarationRegex name).node s next =
      run text (.rounds directiveNode 0 (some 1) .most) s fun a =>
        run text (.atomic (manyOfSet blankSet 0)) a fun b =>
          run text (.capture 2 typeNode) b fun c => runName text name c next := by
  simp only [declarationRegex, startItems, endItems, cons_append, nil_append,
    run_sequence_cons, run_sequence_append, run_sequence_nil]
  rfl

section
variable {x y : List Char} {t : Template} {E : Nat → Nat → Prop} {m : Nat} {next next' : Next}
  {text text' : List Char}

theorem has_head {name : List Char} (hname : IsWordName name) {cs : CharSet} (hcs : TakesWords cs) :
    ∀ c ∈ name.head?, cs.has c = true :=
  fun c hc => hcs c (hname.isWord c (mem_of_mem_head? hc))

theorem has_head_typeStartSet {name : List Char} (hname : IsWordName name) :
    ∀ c ∈ name.head?, typeStartSet.has c = true :=
  fun c hc => has_typeStartSet (hname.isWord c (mem_of_mem_head? hc)) (hname.notDecimal c hc)

section
variable (hT : Setting x y t E)
include hT

theorem agree_blanks (h : Agree x y t E m next next') :
    Agree x y t E m (run text (manyOfSet blankSet 0) · next)
      (run text' (manyOfSet blankSet 0) · next') :=
  hT.agree_longest leavesWords_blankSet h

theorem alike_blanks (h : Alike x y t E m next next') :
    Alike x y t E m (run text (manyOfSet blankSet 0) · next)
      (run text' (manyOfSet blankSet 0) · next') :=
  hT.alike_longest (.inl leavesWords_blankSet) h

theorem alike_some {cs : CharSet} (hcs : TakesWords cs)
    (h : Agree x y t E m next next') :
    Alike x y t E m (run text (manyOfSet cs 1) · next) (run text' (manyOfSet cs 1) · next') := by
  simp only [manyOfSet, run_rounds_one]
  exact hT.alike_start (has_head hT.left hcs) (has_head hT.right hcs) hcs h

theorem agree_later (h : Agree x y t E m next next') :
    Agree x y t E m (run text (.rounds laterNode 0 none .most) · next)
      (run text' (.rounds laterNode 0 none .most) · next') := by
  have hmark : LeavesWords (markSet ',') := leavesWords_markSet (by decide)
  refine hT.agree_rounds (fun _ h => nomatch h) (fun _ h => nomatch h) ?_ ?_ ?_ h <;>
    simp only [laterNode, run_seq]
  · exact fun h => hT.alike_set hmark
      (alike_blanks hT (alike_some hT takesWords_wordSet (agree_blanks hT h)))
  · exact fun _ => hmark.shuns_set hT.left _
  · exact fun _ => hmark.shuns_set hT.right _

theorem agree_earlier (h : Agree x y t E m next next') :
    Agree x y t E m (run text (.rounds earlierNode 0 none .most) · next)
      (run text' (.rounds earlierNode 0 none .most) · next') := by
  have hmark : LeavesWords (markSet ',') := leavesWords_markSet (by decide)
  refine hT.agree_rounds (fun _ h => nomatch h) (fun _ h => nomatch h) ?_ ?_ ?_ h <;>
    simp only [earlierNode, run_seq]
  · exact fun h => hT.alike_wordEdge (alike_some hT takesWords_wordSet
      (agree_blanks hT (hT.agree_set hmark (alike_blanks hT h.alike))))
  · exact fun _ => shuns_wordEdge hT.left _
  · exact fun _ => shuns_wordEdge hT.right _

theorem agree_value (h : Agree x y t E m next next') :
    Agree x y t E m (run text valueNode · next) (run text' valueNode · next') := by
  simp only [valueNode, run_seq]
  refine hT.agree_set (leavesWords_markSet (by decide)) (alike_blanks hT ?_)
  refine hT.alike_capture fun p p' hp => ?_
  exact hT.alike_takes takesWords_valueSet (hT.agree_hold hp h)

theorem agree_arguments (h : Agree x y t E m next next') :
    Agree x y t E m (run text argumentsNode · next) (run text' argumentsNode · next') := by
  simp only [argumentsNode, run_seq]
  refine hT.agree_set (leavesWords_markSet (by decide)) ?_
  refine hT.alike_capture fun p p' hp => ?_
  exact alike_some hT takesWords_valueSet (hT.agree_hold hp
    (hT.agree_set (leavesWords_markSet (by decide)) h.alike))

theorem agree_runEnd (h : Alike x y t E m next next') :
    Agree x y t E m (runEnd text · next) (runEnd text' · next') := by
  have hoptions : ∀ cs, optionsNode ≠ .set cs := fun _ h => nomatch h
  have hend : Agree x y t E m (run text (.set endSet) · next) (run text' (.set endSet) · next') :=
    hT.agree_set leavesWords_endSet h
  simp only [runEnd, run_optional hoptions]
  refine agree_blanks hT (.or ?_ hend)
  simp only [optionsNode, run_alt]
  exact (agree_later hT hend).or ((agree_value hT hend).or (agree_arguments hT hend))

theorem agree_runName {name name' : List Char}
    (hname : Counterpart x y name name') (h : Alike x y t E m next next') :
    Agree x y t E m (runName text name · next) (runName text' name' · next') := by
  simp only [runName]
  exact agree_blanks hT (agree_earlier hT (hT.agree_wordEdge
    (hT.alike_name hname (agree_runEnd hT h).alike)))

theorem alike_type (h : Agree x y t E m next next') :
    Alike x y t E m (run text (.capture 2 typeNode) · next)
      (run text' (.capture 2 typeNode) · next') := by
  refine hT.alike_capture fun p p' hp => ?_
  simp only [typeNode, run_seq]
  exact hT.alike_start (has_head_typeStartSet hT.left) (has_head_typeStartSet hT.right)
    takesWords_typeSet (hT.agree_behind leavesWords_typeEndSet (hT.agree_hold hp h))

theorem alike_declaration {name name' : List Char}
    (hname : Counterpart x y name name') (m : Nat) :
    Alike x y t E m (run text (declarationRegex name).node · some)
      (run text' (declarationRegex name').node · some) := by
  have hdirective : ∀ cs, directiveNode ≠ .set cs := fun _ h => nomatch h
  have htype : ∀ m, Alike x y t E m
      (fun s => run text (.capture 2 typeNode) s fun c => runName text name c some)
      (fun s => run text' (.capture 2 typeNode) s fun c => runName text' name' c some) :=
    fun m => alike_type hT (agree_runName hT hname .some)
  have hblanks : Alike x y t E m
      (fun s => run text (.atomic (manyOfSet blankSet 0)) s fun b =>
        run text (.capture 2 typeNode) b fun c => runName text name c some)
      (fun s => run text' (.atomic (manyOfSet blankSet 0)) s fun b =>
        run text' (.capture 2 typeNode) b fun c => runName text' name' c some) :=
    .atomic (alike_blanks hT .some) htype
  simp only [run_declarationRegex, run_optional hdirective]
  refine .or (hT.alike_capture fun p p' hp => ?_) hblanks
  exact hT.alike_set (leavesWords_markSet (by decide)) (hT.alike_hold hp hblanks)

end

/-- What follows the type in a declaration whose type starts at `start`. -/
def runAfterType (text name : List Char) (start : Nat) : Next := fun s =>
  run text (.behind false 1 (.set typeEndSet)) s fun a => runName text name (a.hold 2 start) some

theorem run_declaration_word {name word before after : List Char} (hne : word ≠ [])
    (hword : ∀ c ∈ word, Text.isWord c = true) :
    run text (declarationRegex name).node (.between before (word ++ after) []) some =
      run text (.set typeStartSet) (.between before (word ++ after) [])
        (longest typeSet.has (runAfterType text name before.length)) := by
  have hdirective : ∀ cs, directiveNode ≠ .set cs := fun _ h => nomatch h
  have hmark : LeavesWords (markSet '#') := leavesWords_markSet (by decide)
  have hblanks : run text (manyOfSet blankSet 0) (.between before (word ++ after) []) some =
      some (.between before (word ++ after) []) :=
    leavesWords_blankSet.longest hne hword
  have hnone : ∀ next, run text directiveNode (.between before (word ++ after) []) next = none := by
    intro next
    rw [directiveNode, run_capture]
    exact hmark.run_set hne hword
  rw [run_declarationRegex, run_optional hdirective, hnone, Option.none_or, run_atomic, hblanks]
  rfl

theorem skips_declaration (hT : Setting x x t fun _ _ => True) {name : List Char}
    (hname : Counterpart x x name name) : Skips x t text (declarationRegex name).node := by
  have hafter : ∀ p q m, Agree x x t (fun _ _ => True) m (runAfterType text name p)
      (runAfterType text name q) := fun p q m =>
    hT.agree_behind leavesWords_typeEndSet (hT.agree_hold trivial (agree_runName hT hname .some))
  intro pre post u v hpre hrun huv hu hv
  -- a type that starts within the name has the rest of it, and goes on as one that starts with it:
  -- only the start of its capture differs, and no other part looks at that
  have hword : ∀ c ∈ v, Text.isWord c = true := fun c hc =>
    hT.left.isWord c (huv ▸ mem_append_right u hc)
  rw [run_declaration_word hT.left.ne_nil hT.left.isWord, run_set_name hT.left
    (has_head_typeStartSet hT.left) takesWords_typeSet (hafter _ 0 0).shuns hpre] at hrun
  rw [run_declaration_word hv hword]
  obtain ⟨c, rest, rfl⟩ := exists_cons_of_ne_nil hv
  rw [cons_append, run_set_cons]
  split_ifs
  · rw [append_assoc, (hafter _ 0 0).shuns.longest hT.left takesWords_typeSet hpre
      (by rw [append_assoc]; exact huv) (append_ne_nil_of_left_ne_nil hu [c])]
    have hrel := hT.alike_takes takesWords_typeSet
      (hafter (fill x pre).length (fill x pre ++ u).length post.length) (Nat.le_refl _)
      (aligned_none hpre .nil)
    rw [hrun] at hrel
    exact rel_none_left hrel
  · rfl

theorem moves_declaration (text name : List Char) : (declarationRegex name).Moves text := by
  refine Regex.moves_of_last (startItems ++ literalItems {} name ++ endItems.dropLast)
    ⟨.single, .set endSet⟩ ?_ rfl
  rw [declarationRegex, append_assoc _ endItems.dropLast]
  rfl

theorem findsAlike_declaration (hfits : Fits x y t) {name name' : List Char}
    (hname : Counterpart x y name name') :
    FindsAlike x y t (declarationRegex name) (declarationRegex name') where
  alike := alike_declaration hfits.setting hname
  skips := skips_declaration hfits.left_setting hname.left
  skips' := skips_declaration hfits.right_setting hname.right
  moves := moves_declaration _ name
  moves' := moves_declaration _ name'

def returnItems : List Item :=
  [⟨.bundle, .capture 1 (manyOfSet valueSet 1)⟩, ⟨.single, .set (markSet ';')⟩]

def returnWord : List Char := "return".toList

theorem node_returnPattern :
    returnPattern.node = sequence (literalItems {} (returnWord ++ [' ']) ++ returnItems) := by
  decide +kernel

theorem isWord_returnWord : ∀ c ∈ returnWord, Text.isWord c = true := by
  have h : returnWord.all Text.isWord = true := by decide
  exact all_eq_true.1 h

theorem alike_return (hT : Setting x y t E) (hend : ¬ returnWord <:+ x) (hend' : ¬ returnWord <:+ y)
    (m : Nat) :
    Alike x y t E m (run text returnPattern.node · some) (run text' returnPattern.node · some) := by
  simp only [node_returnPattern, run_sequence_append, returnItems, run_sequence_cons,
    run_sequence_nil]
  refine hT.alike_keyword isWord_returnWord (by decide) hend hend' ?_
  refine hT.alike_capture fun p p' hp => ?_
  exact alike_some hT takesWords_valueSet (hT.agree_hold hp
    (hT.agree_set (leavesWords_markSet (by decide)) .some))

theorem skips_return {name : List Char} (hname : IsWordName name) (ht : t.IsChain Apart)
    (hend : ¬ returnWord <:+ name) : Skips name t text returnPattern.node := by
  intro pre post u v hpre _ huv hu hv
  rw [node_returnPattern, run_sequence_append]
  exact shuns_keyword hname ht isWord_returnWord (by decide) hend _ hpre huv hu hv []

theorem moves_return (text : List Char) : returnPattern.Moves text :=
  Regex.moves_of_last (literalItems {} (returnWord ++ [' ']) ++ returnItems.dropLast)
    ⟨.single, .set (markSet ';')⟩ node_returnPattern rfl

theorem findsAlike_return (hfits : Fits x y t) (hend : ¬ returnWord <:+ x)
    (hend' : ¬ returnWord <:+ y) : FindsAlike x y t returnPattern returnPattern where
  alike := alike_return hfits.setting hend hend'
  skips := skips_return hfits.left hfits.apart hend
  skips' := skips_return hfits.right hfits.apart hend'
  moves := moves_return _
  moves' := moves_return _

end

end BindingStubs.Inference
