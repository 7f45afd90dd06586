import BindingStubs.Method.Registered
import BindingStubs.Proofs.ClassSection.Definition

set_option autoImplicit false

/-! # The function behind a method -/

namespace BindingStubs.Method

open Pattern Inference ClassSection List

def wordNode : Node := manyOfSet wordSet 1

def colonsNode : Node := sequence (literalItems {} [':', ':'])

def gapSet : CharSet := { items := [.kind .word false true] }

def restNode : Node := .seq (manyOfSet gapSet 0) .lastLineEnd

def functionNode : Node :=
  .seq (.wordEdge false true) (.seq (.capture 2 wordNode) (.seq (.wordEdge false true) restNode))

def nameNode : Node :=
  .seq (.rounds (.seq (.capture 1 wordNode) colonsNode) 0 (some 1) .most) functionNode

def scopeNode : Node := .seq wordNode colonsNode

theorem node_pointerPattern :
    pointerPattern.node = .seq (.rounds scopeNode 0 none .least) nameNode := by
  decide +kernel

theorem run_pointerPattern {text : List Char} {s : Spot} :
    run text pointerPattern.node s some =
      fewOf (run text scopeNode) (s.left + 1) none s fun t => run text nameNode t some := by
  rw [node_pointerPattern]
  rfl

structure IsWord (w : List Char) : Prop where
  ne_nil : w ≠ []
  isWord : ∀ c ∈ w, Text.isWord c = true

def HasNoWord (cs : List Char) : Prop := ∀ c ∈ cs, Text.isWord c = false

theorem hasNoWord_colons : HasNoWord [':', ':'] := by
  intro c hc
  have hcolon : c = ':' := by simpa using hc
  rw [hcolon]
  decide

def EndsWord (cs : List Char) : Prop := cs.getLast?.any Text.isWord = false

section
variable {text before after post w : List Char} {caught : List (Nat × Nat × Nat)} {next : Next}

theorem run_wordNode_eq_none (h : after.head?.any Text.isWord = false) :
    run text wordNode (.between before after caught) next = none := by
  rw [wordNode, manyOfSet, run_rounds_one]
  cases after with
  | nil => rfl
  | cons c after =>
    rw [run_set_cons, has_wordSet, if_neg]
    simpa using h

theorem run_wordNode (hw : IsWord w) (hpost : post.head?.any Text.isWord = false)
    (hnext : ∀ u c v, u ≠ [] → Text.isWord c = true → u ++ c :: v = w →
      next (.between (before ++ u) (c :: (v ++ post)) caught) = none) :
    run text wordNode (.between before (w ++ post) caught) next =
      next (.between (before ++ w) post caught) := by
  obtain ⟨c, tail, rfl⟩ := exists_cons_of_ne_nil hw.ne_nil
  have htail : ∀ d ∈ tail, wordSet.has d = true := fun d hd =>
    (has_wordSet d).trans (hw.isWord d (mem_cons_of_mem c hd))
  have hend : ∀ front, longest wordSet.has next (.between front post caught) =
      next (.between front post caught) := by
    intro front
    cases post with
    | nil => exact longest_nil
    | cons d post => exact longest_of_not ((has_wordSet d).trans (by simpa using hpost))
  rw [wordNode, manyOfSet, run_rounds_one, cons_append, run_set_cons, has_wordSet,
    if_pos (hw.isWord c mem_cons_self)]
  cases tail with
  | nil => exact hend _
  | cons d tail =>
    have hfirst : next (.between (before ++ [c]) (d :: (tail ++ post)) caught) = none :=
      hnext [c] d tail (cons_ne_nil _ _) (hw.isWord d (by simp)) rfl
    rw [longest_append (cons_ne_nil d tail) htail, hend, cons_append, hfirst,
      Option.or_none, append_assoc, singleton_append]
    intro u v huv hu hv
    obtain ⟨e, v, rfl⟩ := exists_cons_of_ne_nil hv
    have hsplit : (c :: u) ++ e :: v = c :: d :: tail := by rw [cons_append, huv]
    rw [append_assoc, singleton_append]
    exact hnext (c :: u) e v (cons_ne_nil _ _) (hw.isWord e (by simp [← hsplit])) hsplit

theorem run_colonsNode (rest : List Char) :
    run text colonsNode (.between before (':' :: ':' :: rest) caught) next =
      next (.between (before ++ [':', ':']) rest caught) :=
  run_literal_append [':', ':']

theorem run_word_colons {hold : Spot → Spot}
    (hhold : ∀ front rest, ∃ held, hold (.between front rest caught) = .between front rest held)
    (hw : IsWord w) (hpost : post.head?.any Text.isWord = false) :
    run text wordNode (.between before (w ++ post) caught)
        (fun t => run text colonsNode (hold t) next) =
      run text colonsNode (hold (.between (before ++ w) post caught)) next := by
  refine run_wordNode hw hpost fun u c v _ hc _ => ?_
  obtain ⟨held, hheld⟩ := hhold (before ++ u) (c :: (v ++ post))
  rw [hheld]
  refine run_literal_eq_none fun hcolons => ?_
  rw [← (cons_prefix_cons.1 hcolons).1] at hc
  exact absurd hc (by decide)

theorem exists_front (cs : List Char) :
    ∃ w post, cs = w ++ post ∧ (∀ c ∈ w, Text.isWord c = true) ∧
      post.head?.any Text.isWord = false := by
  induction cs with
  | nil => exact ⟨[], [], rfl, forall_mem_nil _, rfl⟩
  | cons c cs ih =>
    cases hc : Text.isWord c with
    | false => exact ⟨[], c :: cs, rfl, forall_mem_nil _, by simpa using hc⟩
    | true =>
      obtain ⟨w, post, rfl, hw, hpost⟩ := ih
      exact ⟨c :: w, post, rfl, forall_mem_cons.2 ⟨hc, hw⟩, hpost⟩

theorem exists_of_run_scopeNode {r : Spot}
    (h : run text scopeNode (.between before after caught) next = some r) :
    ∃ w rest, after = w ++ [':', ':'] ++ rest ∧ IsWord w ∧
      next (.between (before ++ (w ++ [':', ':'])) rest caught) = some r := by
  obtain ⟨w, post, rfl, hw, hpost⟩ := exists_front after
  rw [scopeNode, run_seq] at h
  by_cases hne : w = []
  · rw [hne, nil_append, run_wordNode_eq_none hpost] at h
    cases h
  · have hword : IsWord w := ⟨hne, hw⟩
    have hid : ∀ front rest, ∃ held, id (Spot.between front rest caught) = .between front rest held :=
      fun _ _ => ⟨_, rfl⟩
    replace h := (run_word_colons hid hword hpost).symm.trans h
    by_cases hcolons : [':', ':'] <+: post
    · obtain ⟨rest, rfl⟩ := hcolons
      refine ⟨w, rest, (append_assoc w _ rest).symm, hword, ?_⟩
      rw [← append_assoc]
      exact (run_colonsNode rest).symm.trans h
    · cases (run_literal_eq_none hcolons).symm.trans h

theorem has_gapSet (c : Char) : gapSet.has c = !Text.isWord c := by
  rw [gapSet, has_set, any_cons, any_nil, Bool.or_false, has_kind, Bool.bne_true,
    Bool.bne_false]
  rfl

theorem longest_all {has : Char → Bool} (hall : ∀ c ∈ after, has c = true) {r : Spot}
    (hend : next (.between (before ++ after) [] caught) = some r) :
    longest has next (.between before after caught) = some r := by
  induction after generalizing before with
  | nil => rwa [longest_nil, ← append_nil before]
  | cons c after ih =>
    rw [forall_mem_cons] at hall
    have hrest : longest has next (.between (before ++ [c]) after caught) = some r := by
      refine ih hall.2 ?_
      rwa [append_assoc, singleton_append]
    rw [longest_of_has hall.1, hrest, Option.some_or]

theorem run_restNode (h : HasNoWord after) :
    run text restNode (.between before after caught) some =
      some (.between (before ++ after) [] caught) := by
  rw [restNode, run_seq, manyOfSet, run_many]
  refine longest_all (fun c hc => ?_) rfl
  rw [has_gapSet, h c hc, Bool.not_false]

theorem hasNoWord_of_run_restNode {r : Spot}
    (h : run text restNode (.between before after caught) some = some r) : HasNoWord after := by
  rw [restNode, run_seq, manyOfSet, run_many] at h
  obtain ⟨u, rest, rfl, hu, hend⟩ := longest_eq_some h
  have hrest : rest = [] ∨ rest = ['\n'] := by
    change (if rest.isEmpty || rest == ['\n'] then some _ else none) = some r at hend
    split_ifs at hend with hlast
    simpa using hlast
  intro c hc
  rcases mem_append.1 hc with hc | hc
  · simpa [has_gapSet] using hu c hc
  · rcases hrest with rfl | rfl
    · simp at hc
    · rw [mem_singleton.1 hc]
      decide

def IsLast (cs : List Char) : Prop := ∃ w post, cs = w ++ post ∧ IsWord w ∧ HasNoWord post

theorem isWordEdge_iff :
    (Spot.between before after caught).isWordEdge false true = true ↔
      before.getLast?.any Text.isWord ≠ after.head?.any Text.isWord := by
  rw [Spot.isWordEdge_between]
  cases before <;> cases after <;> simp

theorem IsWord.head?_append (hw : IsWord w) (post : List Char) :
    (w ++ post).head?.any Text.isWord = true := by
  obtain ⟨c, tail, rfl⟩ := exists_cons_of_ne_nil hw.ne_nil
  simpa using hw.isWord c mem_cons_self

theorem IsWord.getLast?_append (hw : IsWord w) (front : List Char) :
    (front ++ w).getLast?.any Text.isWord = true := by
  obtain ⟨front', c, rfl⟩ := (eq_nil_or_concat' w).resolve_left hw.ne_nil
  rw [← append_assoc, getLast?_concat]
  exact hw.isWord c (by simp)

theorem HasNoWord.head? (h : HasNoWord post) : post.head?.any Text.isWord = false := by
  cases post with
  | nil => rfl
  | cons c post => simpa using h c mem_cons_self

theorem IsLast.head? (h : IsLast after) : after.head?.any Text.isWord = true := by
  obtain ⟨w, post, rfl, hw, -⟩ := h
  exact hw.head?_append post

theorem IsLast.hasNoWord {front back : List Char} {c : Char} (h : IsLast (front ++ c :: back))
    (hc : Text.isWord c = false) : HasNoWord back := by
  obtain ⟨w, post, hcs, hw, hpost⟩ := h
  rcases append_eq_append_iff.1 hcs with ⟨middle, rfl, hback⟩ | ⟨middle, rfl, rfl⟩
  · cases middle with
    | nil => exact fun d hd => hpost d (by rw [← nil_append post, ← hback]; simp [hd])
    | cons d middle =>
      have hword := hw.isWord d (by simp)
      rw [← (List.cons.inj hback).1, hc] at hword
      cases hword
  · exact fun d hd => hpost d (by simp [hd])

theorem run_wordEdge {s : Spot} :
    run text (.wordEdge false true) s next = if s.isWordEdge false true then next s else none := rfl

def held (index : Nat) (before w : List Char) (caught : List (Nat × Nat × Nat)) :
    List (Nat × Nat × Nat) :=
  (index, before.length, (before ++ w).length) :: caught.filter fun entry => entry.1 != index

theorem hold_between (index : Nat) :
    (Spot.between (before ++ w) post caught).hold index before.length =
      .between (before ++ w) post (held index before w caught) := rfl

theorem run_functionNode (hbefore : EndsWord before) (hw : IsWord w) (hpost : HasNoWord post) :
    run text functionNode (.between before (w ++ post) caught) some =
      some (.between (before ++ w ++ post) [] (held 2 before w caught)) := by
  have hstart : (Spot.between before (w ++ post) caught).isWordEdge false true = true :=
    isWordEdge_iff.2 (by rw [hbefore, hw.head?_append]; exact Bool.false_ne_true)
  have hstop : (Spot.between (before ++ w) post (held 2 before w caught)).isWordEdge false true =
      true := isWordEdge_iff.2 (by rw [hw.getLast?_append, hpost.head?]; exact Bool.false_ne_true.symm)
  rw [functionNode, run_seq, run_wordEdge, if_pos hstart, run_seq, run_capture]
  change run text wordNode _ (fun t => run text _ (t.hold 2 before.length) _) = _
  rw [run_wordNode hw hpost.head?, hold_between, run_seq, run_wordEdge, if_pos hstop,
    run_restNode hpost]
  -- within the word there is no edge
  intro u c v hu hc huv
  have hword : IsWord u := ⟨hu, fun d hd => hw.isWord d (by simp [← huv, hd])⟩
  rw [hold_between, run_seq, run_wordEdge, if_neg]
  rw [isWordEdge_iff, hword.getLast?_append, head?_cons, Option.any_some, hc]
  exact fun h => h rfl

theorem takes_wordNode : Takes wordNode w ↔ IsWord w := by
  rw [wordNode, manyOfSet, takes_many]
  simp only [has_wordSet]
  exact ⟨fun h => ⟨length_pos_iff.1 h.1, h.2⟩, fun h => ⟨length_pos_iff.2 h.1, h.2⟩⟩

theorem isLast_of_run_functionNode {r : Spot}
    (h : run text functionNode (.between before after caught) some = some r) : IsLast after := by
  rw [functionNode, run_seq, run_wordEdge] at h
  split_ifs at h
  rw [run_seq] at h
  obtain ⟨w, post, caught', rfl, hw, hrest⟩ := exists_takes_of_run (by decide) h
  rw [takes_capture, takes_wordNode] at hw
  rw [run_seq, run_wordEdge] at hrest
  split_ifs at hrest
  exact ⟨w, post, rfl, hw, hasNoWord_of_run_restNode hrest⟩

theorem run_nameNode {s : Spot} :
    run text nameNode s some =
      (run text (.seq (.capture 1 wordNode) colonsNode) s fun t => run text functionNode t some).or
        (run text functionNode s some) := by
  rw [nameNode, run_seq, run_one_or_none]

def IsOwned (cs : List Char) : Prop :=
  ∃ w rest, cs = w ++ ':' :: ':' :: rest ∧ IsWord w ∧ IsLast rest

theorem IsOwned.not_isLast (h : IsOwned after) : ¬ IsLast after := by
  obtain ⟨w, rest, rfl, -, hrest⟩ := h
  intro hlast
  have hnone := hlast.hasNoWord (by decide)
  have hhead : rest.head?.any Text.isWord = false :=
    HasNoWord.head? fun c hc => hnone c (mem_cons_of_mem _ hc)
  rw [hrest.head?] at hhead
  cases hhead

theorem isOwned_of_run {r : Spot}
    (h : run text (.seq (.capture 1 wordNode) colonsNode) (.between before after caught)
      (fun t => run text functionNode t some) = some r) : IsOwned after := by
  obtain ⟨taken, rest, caught', rfl, htaken, hrest⟩ := exists_takes_of_run (by decide +kernel) h
  obtain ⟨w, colons, hw, hcolons, rfl⟩ := takes_seq.1 htaken
  rw [takes_capture, takes_wordNode] at hw
  rw [colonsNode, takes_literal {} rfl] at hcolons
  rw [hcolons]
  exact ⟨w, rest, append_assoc w _ rest, hw, isLast_of_run_functionNode hrest⟩

theorem run_nameNode_owned {owner : List Char} (howner : IsWord owner) (hw : IsWord w)
    (hpost : HasNoWord post) :
    run text nameNode (.between before (owner ++ ':' :: ':' :: (w ++ post)) []) some =
      some (.between (before ++ owner ++ [':', ':'] ++ w ++ post) []
        (held 2 (before ++ owner ++ [':', ':']) w (held 1 before owner []))) := by
  have hends : EndsWord (before ++ owner ++ [':', ':']) := by simp [EndsWord]; decide
  rw [run_nameNode, run_seq, run_capture]
  change (run text wordNode _ fun t => run text colonsNode (t.hold 1 before.length) _).or _ = _
  rw [run_word_colons (fun _ _ => ⟨_, rfl⟩) howner (by simp; decide), hold_between, run_colonsNode,
    run_functionNode hends hw hpost, Option.some_or]

theorem run_nameNode_last (hbefore : EndsWord before) (hw : IsWord w) (hpost : HasNoWord post) :
    run text nameNode (.between before (w ++ post) []) some =
      some (.between (before ++ w ++ post) [] (held 2 before w [])) := by
  have hnone : run text (.seq (.capture 1 wordNode) colonsNode) (.between before (w ++ post) [])
      (fun t => run text functionNode t some) = none := by
    refine Option.eq_none_iff_forall_ne_some.2 fun r hr => ?_
    exact (isOwned_of_run hr).not_isLast ⟨w, post, rfl, hw, hpost⟩
  rw [run_nameNode, hnone, Option.none_or, run_functionNode hbefore hw hpost]

theorem run_nameNode_eq_none (howned : ¬ IsOwned after) (hlast : ¬ IsLast after) :
    run text nameNode (.between before after caught) some = none := by
  rw [run_nameNode, Option.or_eq_none_iff]
  exact ⟨Option.eq_none_iff_forall_ne_some.2 fun r hr => howned (isOwned_of_run hr),
    Option.eq_none_iff_forall_ne_some.2 fun r hr => hlast (isLast_of_run_functionNode hr)⟩

end

/-- A place at which the names start: no word and no scope of the last word reaches beyond it. -/
structure IsStart (front core : List Char) : Prop where
  starts : core.head?.any Text.isWord = true
  ends : EndsWord front
  stops : ∀ g w, IsWord w → front = g ++ (w ++ [':', ':']) → ¬ IsLast core

namespace IsStart

variable {text front core : List Char}

theorem exists_last (h : IsStart front core) {pre u : List Char} (hu : pre ++ u = front)
    (hne : u ≠ []) : ∃ u' c, u = u' ++ [c] ∧ Text.isWord c = false := by
  obtain ⟨u', c, rfl⟩ := (eq_nil_or_concat' u).resolve_left hne
  have hends := h.ends
  rw [← hu, ← append_assoc, EndsWord, getLast?_concat, Option.any_some] at hends
  exact ⟨u', c, rfl, hends⟩

theorem not_hasNoWord (h : IsStart front core) : ¬ HasNoWord core := by
  intro hnone
  have hhead := hnone.head?
  rw [h.starts] at hhead
  cases hhead

theorem head_ne (h : IsStart front core) {c : Char} {rest : List Char} (hc : Text.isWord c = false) :
    core ≠ c :: rest := by
  rintro rfl
  have hhead := h.starts
  rw [head?_cons, Option.any_some, hc] at hhead
  cases hhead

theorem run_eq_none (h : IsStart front core) {pre u : List Char} (hu : pre ++ u = front)
    (hne : u ≠ []) : run text nameNode (.between pre (u ++ core) []) some = none := by
  obtain ⟨u', c, rfl, hc⟩ := h.exists_last hu hne
  rw [append_assoc, singleton_append]
  refine run_nameNode_eq_none ?_ fun hlast => h.not_hasNoWord (hlast.hasNoWord hc)
  rintro ⟨w, rest, hcs, hw, hrest⟩
  rcases append_eq_append_iff.1 hcs with ⟨middle, rfl, hmiddle⟩ | ⟨middle, rfl, hmiddle⟩
  · rcases middle with _ | ⟨d, middle⟩
    · exact h.head_ne (by decide) (List.cons.inj hmiddle).2
    · have hword := hw.isWord d (by simp)
      rw [← (List.cons.inj hmiddle).1, hc] at hword
      cases hword
  · rcases middle with _ | ⟨d, _ | ⟨e, middle⟩⟩
    · exact h.head_ne (by decide) (List.cons.inj hmiddle).2.symm
    · simp only [cons_append, nil_append, List.cons.injEq] at hmiddle
      obtain ⟨rfl, rfl, rfl⟩ := hmiddle
      refine h.stops pre w hw ?_ hrest
      rw [← hu, append_assoc]
      rfl
    · simp only [cons_append, List.cons.injEq] at hmiddle
      rw [hmiddle.2.2] at hrest
      exact h.not_hasNoWord (hrest.hasNoWord hc)

theorem exists_of_scope (h : IsStart front core) {pre u : List Char} (hu : pre ++ u = front)
    (hne : u ≠ []) {next : Next} {r : Spot}
    (hr : run text scopeNode (.between pre (u ++ core) []) next = some r) :
    ∃ pre' u', pre' ++ u' = front ∧ pre.length < pre'.length ∧
      next (.between pre' (u' ++ core) []) = some r := by
  obtain ⟨u₀, c, rfl, hc⟩ := h.exists_last hu hne
  obtain ⟨w, rest, hcs, hw, hnext⟩ := exists_of_run_scopeNode hr
  have hlength : pre.length < (pre ++ (w ++ [':', ':'])).length := by simp
  rcases append_eq_append_iff.1 hcs with ⟨middle, hscope, hcore⟩ | ⟨u', hscope, rfl⟩
  · rcases middle with _ | ⟨d, middle⟩
    · rw [nil_append] at hcore
      rw [append_nil] at hscope
      exact ⟨pre ++ (w ++ [':', ':']), [], by rw [hscope, append_nil, hu], hlength,
        by rwa [nil_append, hcore]⟩
    · -- the scope reaches a word of the core only through a character that is in no word
      have hd : Text.isWord d = true := by
        have hhead := h.starts
        rwa [hcore] at hhead
      have hlast : IsLast (u₀ ++ c :: d :: middle) :=
        ⟨w, [':', ':'], by rw [hscope, append_assoc, singleton_append], hw, hasNoWord_colons⟩
      rw [hlast.hasNoWord hc d mem_cons_self] at hd
      cases hd
  · refine ⟨pre ++ (w ++ [':', ':']), u', ?_, hlength, hnext⟩
    rw [← hu, hscope, append_assoc]

section
variable {r : Spot} (hr : run text nameNode (.between front core []) some = some r)
include hr

theorem run_nameNode_cases (h : IsStart front core) {pre u : List Char} (hu : pre ++ u = front) :
    u = [] ∧ run text nameNode (.between pre (u ++ core) []) some = some r ∨
      u ≠ [] ∧ run text nameNode (.between pre (u ++ core) []) some = none := by
  by_cases hne : u = []
  · rw [hne, append_nil] at hu
    exact Or.inl ⟨hne, by rwa [hne, nil_append, hu]⟩
  · exact Or.inr ⟨hne, h.run_eq_none hu hne⟩

theorem fewOf_cases (h : IsStart front core) (fuel : Nat) {pre u : List Char}
    (hu : pre ++ u = front) :
    fewOf (run text scopeNode) fuel none (.between pre (u ++ core) [])
        (fun t => run text nameNode t some) = none ∨
      fewOf (run text scopeNode) fuel none (.between pre (u ++ core) [])
        (fun t => run text nameNode t some) = some r := by
  induction fuel generalizing pre u with
  | zero => exact ((h.run_nameNode_cases hr hu).imp And.right And.right).symm
  | succ fuel ih =>
    rw [fewOf]
    rcases h.run_nameNode_cases hr hu with ⟨-, hhere⟩ | ⟨hne, hhere⟩
    · rw [hhere]
      exact Or.inr rfl
    · rw [hhere, if_neg (by decide), Option.map_none]
      refine or_iff_not_imp_left.2 fun hfound => ?_
      obtain ⟨found, hfound⟩ := Option.ne_none_iff_exists'.1 hfound
      obtain ⟨pre', u', hu', hlength, hrest⟩ := h.exists_of_scope hu hne hfound
      have hplace : ((Spot.between pre' (u' ++ core) []).place ==
          (Spot.between pre (u ++ core) []).place) = false := beq_false_of_ne (Nat.ne_of_gt hlength)
      rw [hplace, if_neg Bool.false_ne_true] at hrest
      rw [hfound, ← hrest]
      exact (ih hu').resolve_left fun hnone => by rw [hnone] at hrest; cases hrest

theorem exists_scan (h : IsStart front core) {pre u : List Char} (hu : pre ++ u = front) :
    ∃ place, pointerPattern.scan text false (u ++ core) (.between pre (u ++ core) []) =
      some (place, r) := by
  induction u generalizing pre with
  | nil =>
    rw [append_nil] at hu
    rw [hu, nil_append]
    refine ⟨front.length, Regex.scan_of_run ?_⟩
    rw [run_pointerPattern, fewOf, hr]
  | cons c u ih =>
    have hmoved : pre ++ [c] ++ u = front := by rw [append_assoc, singleton_append, hu]
    obtain ⟨place, hrest⟩ := ih hmoved
    rw [cons_append, Regex.scan_cons, run_pointerPattern, hrest]
    rcases h.fewOf_cases hr _ hu with hhere | hhere
    · exact ⟨place, by rw [← cons_append, hhere]; rfl⟩
    · exact ⟨pre.length, by rw [← cons_append, hhere]; rfl⟩

theorem exists_search (h : IsStart front core) (htext : text = front ++ core) :
    ∃ place, pointerPattern.search (String.ofList text) = some (Regex.toMatch text (place, r)) := by
  obtain ⟨place, hscan⟩ := h.exists_scan hr (nil_append front)
  rw [Regex.search_eq]
  exact ⟨place, by rw [← Option.map_some, ← hscan, htext]⟩

end

end IsStart

inductive Names (text : List Char) : List Char → List Char → Prop
  | owned {front owner w post : List Char} (hfront : EndsWord front) (howner : IsWord owner)
      (hw : IsWord w) (hpost : HasNoWord post)
      (htext : text = front ++ (owner ++ ':' :: ':' :: (w ++ post))) : Names text owner w
  | free {front w post : List Char} (hfront : EndsWord front)
      (hfree : ∀ g owner, IsWord owner → front ≠ g ++ (owner ++ [':', ':'])) (hw : IsWord w)
      (hpost : HasNoWord post) (htext : text = front ++ (w ++ post)) : Names text [] w

section
variable {text owner w : List Char}

theorem named_class : pointerPattern.named "class" = 1 := by decide +kernel

theorem named_function : pointerPattern.named "function" = 2 := by decide +kernel

theorem group_held {r : Spot} {before w rest : List Char} {index : Nat} (place : Nat)
    (htext : text = before ++ (w ++ rest))
    (hfound : r.caught.find? (fun entry => entry.1 == index) =
      some (index, before.length, (before ++ w).length)) :
    (Regex.toMatch text (place, r)).group index = String.ofList w := by
  rw [Match.group, Match.group?, Regex.toMatch, hfound, Option.map_some, Option.getD_some, htext]
  dsimp only
  rw [← append_assoc, take_left, drop_left]

theorem pointer_of_names (h : Names text owner w) :
    pointer (String.ofList text) = .ok (String.ofList owner, String.ofList w) := by
  cases h with
  | @owned front owner w post hfront howner hw hpost htext =>
    have hstart : IsStart front (owner ++ ':' :: ':' :: (w ++ post)) :=
      ⟨howner.head?_append _, hfront, fun _ _ _ _ =>
        IsOwned.not_isLast ⟨owner, _, rfl, howner, w, post, rfl, hw, hpost⟩⟩
    have hlast : text = (front ++ owner ++ [':', ':']) ++ (w ++ post) := by simp [htext]
    obtain ⟨place, hsearch⟩ := hstart.exists_search (run_nameNode_owned howner hw hpost) htext
    rw [pointer, hsearch, named_class, named_function]
    exact congrArg₂ (fun c f => Except.ok (c, f)) (group_held place htext rfl)
      (group_held place hlast rfl)
  | @free front w post hfront hfree hw hpost htext =>
    have hstart : IsStart front (w ++ post) :=
      ⟨hw.head?_append _, hfront, fun g owner howner hg => absurd hg (hfree g owner howner)⟩
    obtain ⟨place, hsearch⟩ := hstart.exists_search (run_nameNode_last hfront hw hpost) htext
    rw [pointer, hsearch, named_class, named_function]
    exact congrArg₂ (fun c f => Except.ok (c, f)) rfl (group_held place htext rfl)

theorem pointer_of_hasNoWord (h : HasNoWord text) :
    pointer (String.ofList text) = .error .notAPointer := by
  have hrun : ∀ before after, before ++ after = text →
      run text pointerPattern.node (.between before after []) some = none := by
    intro before after htext
    have hafter : HasNoWord after := fun c hc => h c (by simp [← htext, hc])
    have hword : ∀ {w rest}, IsWord w → after ≠ w ++ rest := by
      rintro w rest hw rfl
      exact Bool.false_ne_true (hafter.head?.symm.trans (hw.head?_append rest))
    have hname : run text nameNode (.between before after []) some = none := by
      apply run_nameNode_eq_none
      · rintro ⟨w, rest, hsplit, hw, -⟩
        exact hword hw hsplit
      · rintro ⟨w, post, hsplit, hw, -⟩
        exact hword hw hsplit
    rw [run_pointerPattern, fewOf, hname, if_neg (by decide), scopeNode, run_seq,
      run_wordNode_eq_none hafter.head?]
  have hscan : pointerPattern.scan text false text (.between [] text []) = none := by
    have hpassed : pointerPattern.scan text false (text ++ []) (.between [] (text ++ []) []) =
        pointerPattern.scan text false [] (.between ([] ++ text) [] []) :=
      Regex.scan_append fun u v huv _ => by rw [append_nil]; exact hrun u v huv
    rw [append_nil] at hpassed
    rw [hpassed, Regex.scan_nil, nil_append, hrun text [] (append_nil text), Option.map_none]
  rw [pointer, Regex.search_eq, hscan, Option.map_none]

theorem exists_back (p : Char → Bool) (cs : List Char) :
    ∃ front back, cs = front ++ back ∧ (∀ c ∈ back, p c = true) ∧ front.getLast?.any p = false := by
  induction cs using List.reverseRecOn with
  | nil => exact ⟨[], [], rfl, forall_mem_nil _, rfl⟩
  | append_singleton cs c ih =>
    cases hc : p c with
    | false => exact ⟨cs ++ [c], [], (append_nil _).symm, forall_mem_nil _, by simpa using hc⟩
    | true =>
      obtain ⟨front, back, rfl, hback, hfront⟩ := ih
      refine ⟨front, back ++ [c], append_assoc _ _ _, ?_, hfront⟩
      rw [forall_mem_append, forall_mem_singleton]
      exact ⟨hback, hc⟩

theorem exists_word_back {cs : List Char} (h : cs.getLast?.any Text.isWord = true) :
    ∃ front w, cs = front ++ w ∧ EndsWord front ∧ IsWord w := by
  obtain ⟨front, w, rfl, hw, hfront⟩ := exists_back Text.isWord cs
  refine ⟨front, w, rfl, hfront, fun hnil => ?_, hw⟩
  rw [hnil, append_nil, hfront] at h
  cases h

theorem exists_names (h : ¬ HasNoWord text) : ∃ owner w, Names text owner w := by
  obtain ⟨start, post, rfl, hpost, hstart⟩ := exists_back (!Text.isWord ·) text
  replace hpost : HasNoWord post := fun c hc => by simpa using hpost c hc
  have hword : start.getLast?.any Text.isWord = true := by
    rcases eq_nil_or_concat' start with rfl | ⟨start, c, rfl⟩
    · exact absurd hpost h
    · simpa using hstart
  obtain ⟨front, w, rfl, hfront, hw⟩ := exists_word_back hword
  by_cases hscope : ∃ g owner, IsWord owner ∧ front = g ++ (owner ++ [':', ':'])
  · obtain ⟨g, owner, howner, rfl⟩ := hscope
    obtain ⟨front', owner', hsplit, hends, howner'⟩ := exists_word_back (howner.getLast?_append g)
    refine ⟨owner', w, .owned hends howner' hw hpost ?_⟩
    rw [← append_assoc, hsplit]
    simp
  · refine ⟨[], w, .free hfront (fun g owner howner hg => hscope ⟨g, owner, howner, hg⟩) hw hpost ?_⟩
    rw [append_assoc]

theorem EndsWord.append_left {left front : List Char} (hleft : HasNoWord left)
    (h : EndsWord front) : EndsWord (left ++ front) := by
  rcases eq_nil_or_concat' front with rfl | ⟨front, c, rfl⟩
  · rw [append_nil, EndsWord]
    rcases eq_nil_or_concat' left with rfl | ⟨left, c, rfl⟩
    · rfl
    · simpa using hleft c (by simp)
  · simpa [EndsWord] using h

theorem Names.append {left right : List Char} (h : Names text owner w) (hleft : HasNoWord left)
    (hright : HasNoWord right) : Names (left ++ (text ++ right)) owner w := by
  have hrest {post : List Char} (hpost : HasNoWord post) : HasNoWord (post ++ right) :=
    forall_mem_append.2 ⟨hpost, hright⟩
  cases h with
  | owned hfront howner hw hpost htext =>
    exact .owned (hfront.append_left hleft) howner hw (hrest hpost) (by simp [htext])
  | @free front w post hfront hfree hw hpost htext =>
    refine .free (hfront.append_left hleft) ?_ hw (hrest hpost) (by simp [htext])
    intro g owner howner hg
    rcases append_eq_append_iff.1 hg with ⟨middle, rfl, hmiddle⟩ | ⟨middle, rfl, hmiddle⟩
    · exact hfree middle owner howner hmiddle
    · cases middle with
      | nil => exact hfree [] owner howner hmiddle.symm
      | cons c middle =>
        have hhead := howner.head?_append [':', ':']
        rw [hmiddle, cons_append, head?_cons, Option.any_some,
          hleft c (by simp)] at hhead
        cases hhead

theorem pointer_append {left right : List Char} (hleft : HasNoWord left) (hright : HasNoWord right) :
    pointer (String.ofList (left ++ (text ++ right))) = pointer (String.ofList text) := by
  by_cases h : HasNoWord text
  · rw [pointer_of_hasNoWord h, pointer_of_hasNoWord]
    exact forall_mem_append.2 ⟨hleft, forall_mem_append.2 ⟨h, hright⟩⟩
  · obtain ⟨owner, w, hnames⟩ := exists_names h
    rw [pointer_of_names hnames, pointer_of_names (hnames.append hleft hright)]

end

end BindingStubs.Method
