import BindingStubs.Proofs.Pattern.Template

set_option autoImplicit false

/-! # Words of a pattern in a text with holes -/

namespace BindingStubs.Pattern

open BindingStubs.Text Template List

section
variable {x y : List Char} {t : Template} {E : Nat → Nat → Prop} {m : Nat}
  {next next' : Next} {text text' : List Char}

section
variable {name word : List Char} {post : Template}

theorem map_some_prefix_of_fill (hword : ∀ c ∈ word, isWord c = true) (hpost : post.IsChain Apart)
    (hhead : post.head? ≠ some none) (h : word <+: fill name post) : word.map some <+: post := by
  induction word generalizing post with
  | nil => exact nil_prefix
  | cons a word ih =>
    rcases post with _ | ⟨_ | c, post⟩
    · exact absurd h (by simp)
    · exact absurd rfl hhead
    · obtain ⟨rfl, hrest⟩ := cons_prefix_cons.1 h
      refine cons_prefix_cons.2 ⟨rfl, ih (fun c hc => hword c (mem_cons_of_mem a hc))
        hpost.tail ?_ hrest⟩
      intro hnone
      obtain ⟨rest, rfl⟩ := head?_eq_some_iff.1 hnone
      have hapart := (isChain_cons_cons.1 hpost).1 (.inr rfl)
      rw [isWordy, isWordy, Option.elim_some, Option.elim_none, hword a mem_cons_self] at hapart
      simp at hapart

theorem head?_of_hole (hname : IsWordName name) (hpost : (none :: post).IsChain Apart) :
    (fill name post).head?.any isWord = false := by
  rw [any_head?_fill hname (fun _ h => h)]
  rcases post with _ | ⟨part, post⟩
  · rfl
  · have hapart := (isChain_cons_cons.1 hpost).1 (.inl rfl)
    rcases hapart with hapart | hapart
    · cases hapart
    · exact hapart

theorem prefix_of_hole (hname : IsWordName name) (hword : ∀ c ∈ word, isWord c = true)
    (hpost : (none :: post).IsChain Apart) (h : word <+: name ++ fill name post) : word <+: name := by
  rcases prefix_or_prefix_of_prefix h (prefix_append name _) with hprefix | ⟨more, rfl⟩
  · exact hprefix
  · rw [prefix_append_right_inj] at h
    rcases more with _ | ⟨c, more⟩
    · rw [append_nil]
    · obtain ⟨rest, hrest⟩ := h
      have hhead := head?_of_hole hname hpost
      rw [← hrest, cons_append, head?_cons, Option.any_some,
        hword c (mem_append_right name mem_cons_self)] at hhead
      cases hhead

theorem run_literal_hole (hname : IsWordName name) (hword : ∀ c ∈ word, isWord c = true)
    (hne : word ≠ []) (hother : word ≠ name) {pre : Template} (hpre : pre ++ none :: post = t)
    (ht : t.IsChain Apart) (caught : List (Nat × Nat × Nat)) :
    run text (sequence (literalItems {} word))
      (.between (fill name pre) (name ++ fill name post) caught)
      (run text (.wordEdge false true) · next) = none := by
  by_cases h : word <+: name ++ fill name post
  · have hpost : (none :: post).IsChain Apart := (hpre ▸ ht).right_of_append
    obtain ⟨rest, hrest⟩ := prefix_of_hole hname hword hpost h
    have hrest_ne : rest ≠ [] := by
      rintro rfl
      rw [append_nil] at hrest
      exact hother hrest
    have hafter : name ++ fill name post = word ++ (rest ++ fill name post) := by
      rw [← append_assoc, hrest]
    rw [hafter, run_literal_append]
    exact shuns_wordEdge hname next hpre hrest hne hrest_ne caught
  · exact run_literal_eq_none h

end

/-- A name and what becomes of it when the holes are filled in the other way. -/
inductive Counterpart (x y : List Char) : List Char → List Char → Prop
  | hole : Counterpart x y x y
  | other {z : List Char} (name : IsWordName z) (left : z ≠ x) (right : z ≠ y) : Counterpart x y z z

theorem Counterpart.transfer {x y name name' : List Char} (h : Counterpart x y name name')
    {P : List Char → Prop} (hy : P y) (hname : P name) : P name' := by
  cases h with
  | hole => exact hy
  | other => exact hname

theorem Counterpart.left {name name' : List Char} (h : Counterpart x y name name') :
    Counterpart x x name name := by
  cases h with
  | hole => exact .hole
  | other hz hleft hright => exact .other hz hleft hleft

theorem Counterpart.right {name name' : List Char} (h : Counterpart x y name name') :
    Counterpart y y name' name' := by
  cases h with
  | hole => exact .hole
  | other hz hleft hright => exact .other hz hright hright

theorem counterpart_of_fill (hfits : Fits x y t) {part : Template} (hpart : part <:+: t)
    (hword : IsWordName (fill x part)) : Counterpart x y (fill x part) (fill y part) := by
  have hchain : part.IsChain Apart := List.IsChain.infix hfits.apart hpart
  -- next to a hole there would be a character that is not part of the word
  have hwordy : ∀ a ∈ part, isWordy a = true := by
    rintro (_ | c) ha
    · rfl
    · refine hword.isWord c ?_
      obtain ⟨before, after, rfl⟩ := append_of_mem ha
      rw [fill_append, fill_some_cons]
      exact mem_append_right _ mem_cons_self
  have hapart : ∀ {a b : Option Char} {before after : Template},
      part = before ++ a :: b :: after → a ≠ none ∧ b ≠ none := by
    intro a b before after heq
    have hab : isWordy a = true ∧ isWordy b = true := by
      constructor <;> exact hwordy _ (by rw [heq]; simp)
    rw [heq, isChain_append_cons_cons] at hchain
    have hnot := hchain.2.1
    rw [Apart, hab.1, hab.2] at hnot
    simpa using hnot
  by_cases hnone : none ∈ part
  · obtain ⟨before, after, rfl⟩ := append_of_mem hnone
    rcases eq_nil_or_concat' before with rfl | ⟨before, a, rfl⟩
    · rcases after with _ | ⟨b, after⟩
      · rw [nil_append, fill_none_cons, fill_none_cons, fill_nil, fill_nil, append_nil,
          append_nil]
        exact .hole
      · exact absurd rfl (@hapart _ _ [] _ rfl).1
    · exact absurd rfl (hapart (append_assoc before [a] (none :: after))).2
  · have hspelled := map_some_fill x hnone
    rw [fill_eq_fill hnone y]
    refine .other hword ?_ ?_
    · intro heq
      rw [heq] at hspelled
      exact hfits.notSpelled (hspelled ▸ hpart)
    · intro heq
      rw [heq] at hspelled
      exact hfits.notSpelled' (hspelled ▸ hpart)

namespace Setting

theorem alike_name (hT : Setting x y t E) {name name' : List Char}
    (hname : Counterpart x y name name') (h : Alike x y t E m next next') :
    Alike x y t E m
      (run text (sequence (literalItems {} name)) · (run text (.wordEdge false true) · next))
      (run text' (sequence (literalItems {} name')) · (run text' (.wordEdge false true) · next')) := by
  have hedge : Alike x y t E m (run text (.wordEdge false true) · next)
      (run text' (.wordEdge false true) · next') := hT.alike_wordEdge h
  rintro (_ | ⟨_ | c, post⟩) s s' hm ⟨pre, caught, caught', hpre, rfl, rfl, hcaught⟩
  · have hnil : ∀ {z : List Char}, IsWordName z → ¬ z <+: [] :=
      fun hz hprefix => hz.ne_nil (prefix_nil.1 hprefix)
    dsimp only
    rw [fill_nil, fill_nil]
    cases hname with
    | hole =>
      rw [run_literal_eq_none (hnil hT.left), run_literal_eq_none (hnil hT.right)]
      exact .none
    | other hz =>
      rw [run_literal_eq_none (hnil hz), run_literal_eq_none (hnil hz)]
      exact .none
  · dsimp only
    rw [fill_none_cons, fill_none_cons]
    cases hname with
    | hole =>
      rw [run_literal_append, run_literal_append]
      exact hedge (Nat.le_of_succ_le hm) (aligned_none hpre hcaught)
    | other hz hleft hright =>
      rw [run_literal_hole hT.left hz.isWord hz.ne_nil hleft hpre hT.apart,
        run_literal_hole hT.right hz.isWord hz.ne_nil hright hpre hT.apart]
      exact .none
  · -- a word that starts at a character ends before the next hole
    have hpost : (some c :: post).IsChain Apart := (hpre ▸ hT.apart).right_of_append
    have hspelled : ∀ {name z : List Char}, IsWordName z → z <+: fill name (some c :: post) →
        z.map some <+: some c :: post :=
      fun hz hprefix => map_some_prefix_of_fill hz.isWord hpost (by simp) hprefix
    have hwithin : ∀ {z : List Char}, z.map some <+: some c :: post → z.map some <:+: t :=
      fun hprefix => hpre ▸ hprefix.isInfix.trans (suffix_append pre _).isInfix
    cases hname with
    | hole =>
      dsimp only
      rw [run_literal_eq_none fun hprefix => hT.notSpelled (hwithin (hspelled hT.left hprefix)),
        run_literal_eq_none fun hprefix => hT.notSpelled' (hwithin (hspelled hT.right hprefix))]
      exact .none
    | other hz =>
      dsimp only
      by_cases hprefix : name.map some <+: some c :: post
      · obtain ⟨rest, hrest⟩ := hprefix
        rw [← hrest] at hpre hm ⊢
        rw [fill_append, fill_append, fill_map_some, run_literal_append, fill_map_some,
          run_literal_append]
        refine hedge ?_ (aligned_map_some hpre hcaught)
        rw [length_append] at hm
        omega
      · rw [run_literal_eq_none fun h => hprefix (hspelled hz h),
          run_literal_eq_none fun h => hprefix (hspelled hz h)]
        exact .none

end Setting

section
variable {keyword : List Char} {mark : Char}

theorem eq_of_keyword {word rest : List Char} (hkeyword : ∀ c ∈ keyword, isWord c = true)
    (hmark : isWord mark = false) (hword : ∀ c ∈ word, isWord c = true)
    (hrest : rest.head?.any isWord = false) (h : keyword ++ [mark] <+: word ++ rest) :
    word = keyword := by
  rcases prefix_or_prefix_of_prefix h (prefix_append word rest) with hlong | hshort
  · have hmem := hword mark (hlong.subset (mem_append_right keyword mem_cons_self))
    rw [hmark] at hmem
    cases hmem
  · rcases prefix_concat_iff.1 hshort with rfl | ⟨more, rfl⟩
    · have hmem := hword mark (mem_append_right keyword mem_cons_self)
      rw [hmark] at hmem
      cases hmem
    · rcases more with _ | ⟨c, more⟩
      · rw [append_nil]
      · rw [append_assoc, prefix_append_right_inj] at h
        obtain ⟨after, rfl⟩ := h
        rw [cons_append, cons_append, head?_cons, Option.any_some,
          hkeyword c (mem_append_right word mem_cons_self)] at hrest
        cases hrest

theorem shuns_keyword {name : List Char} (hname : IsWordName name) (ht : t.IsChain Apart)
    (hkeyword : ∀ c ∈ keyword, isWord c = true) (hmark : isWord mark = false)
    (hend : ¬ keyword <:+ name) (next : Next) :
    Shuns name t (run text (sequence (literalItems {} (keyword ++ [mark]))) · next) := by
  intro pre post u v hpre huv hu hv caught
  refine run_literal_eq_none fun hprefix => hend ?_
  have hrest := head?_of_hole hname (hpre ▸ ht).right_of_append
  have hword : ∀ c ∈ v, isWord c = true := fun c hc =>
    hname.isWord c (huv ▸ mem_append_right u hc)
  rw [← eq_of_keyword hkeyword hmark hword hrest hprefix]
  exact ⟨u, huv⟩

theorem map_some_keyword_isPrefix {name : List Char} {post : Template} (hname : IsWordName name)
    (hkeyword : ∀ c ∈ keyword, isWord c = true) (hmark : isWord mark = false)
    (hpost : post.IsChain Apart) (hhead : post.head? ≠ some none)
    (h : keyword ++ [mark] <+: fill name post) : (keyword ++ [mark]).map some <+: post := by
  obtain ⟨rest, rfl⟩ := map_some_prefix_of_fill hkeyword hpost hhead
    ((prefix_append keyword _).trans h)
  rw [fill_append, fill_map_some, prefix_append_right_inj] at h
  rw [map_append, prefix_append_right_inj]
  rcases rest with _ | ⟨_ | c, rest⟩
  · exact absurd h (by simp)
  · obtain ⟨c, name, rfl⟩ := exists_cons_of_ne_nil hname.ne_nil
    have hword := hname.isWord c mem_cons_self
    rw [← (cons_prefix_cons.1 h).1, hmark] at hword
    cases hword
  · rw [(cons_prefix_cons.1 h).1]
    exact cons_prefix_cons.2 ⟨rfl, nil_prefix⟩

theorem Setting.alike_keyword (hT : Setting x y t E)
    (hkeyword : ∀ c ∈ keyword, isWord c = true) (hmark : isWord mark = false)
    (hend : ¬ keyword <:+ x) (hend' : ¬ keyword <:+ y) (h : Alike x y t E m next next') :
    Alike x y t E m (run text (sequence (literalItems {} (keyword ++ [mark]))) · next)
      (run text' (sequence (literalItems {} (keyword ++ [mark]))) · next') := by
  rintro post s s' hm ⟨pre, caught, caught', hpre, rfl, rfl, hcaught⟩
  have hpost : post.IsChain Apart := (hpre ▸ hT.apart).right_of_append
  have hnone : ∀ {name : List Char}, IsWordName name → ¬ keyword <:+ name →
      ¬ (keyword ++ [mark]).map some <+: post → ¬ keyword ++ [mark] <+: fill name post := by
    intro name hname hend hspelled hprefix
    by_cases hhead : post.head? = some none
    · obtain ⟨rest, rfl⟩ : ∃ rest, post = none :: rest := head?_eq_some_iff.1 hhead
      refine hend ?_
      rw [← eq_of_keyword hkeyword hmark hname.isWord (head?_of_hole hname hpost) hprefix]
    · exact hspelled (map_some_keyword_isPrefix hname hkeyword hmark hpost hhead hprefix)
  dsimp only
  by_cases hspelled : (keyword ++ [mark]).map some <+: post
  · obtain ⟨rest, rfl⟩ := hspelled
    rw [fill_append, fill_append, fill_map_some, run_literal_append, fill_map_some,
      run_literal_append]
    refine h ?_ (aligned_map_some hpre hcaught)
    rw [length_append] at hm
    omega
  · rw [run_literal_eq_none (hnone hT.left hend hspelled),
      run_literal_eq_none (hnone hT.right hend' hspelled)]
    exact .none

end

end

end BindingStubs.Pattern

namespace BindingStubs.Pattern.Template

open BindingStubs.Text List

section
variable {name : List Char} {mark : Char} (t : Template)

def isBlankPart (part : Option Char) : Bool := part.any isBlank

theorem dropBlank_fill (hne : name ≠ []) (hname : ∀ c ∈ name, isWord c = true) :
    Chars.dropBlank (fill name t) = fill name (t.dropWhile isBlankPart) := by
  induction t with
  | nil => rfl
  | cons part t ih =>
    cases part with
    | none =>
      obtain ⟨c, rest, rfl⟩ := exists_cons_of_ne_nil hne
      have hc : isBlank c = false := by
        by_contra h
        rw [Bool.not_eq_false] at h
        have hword := hname c mem_cons_self
        rw [not_isWord_of_isBlank h] at hword
        cases hword
      rw [fill_none_cons, cons_append, Chars.dropBlank, hc]
      rfl
    | some c =>
      rw [fill_some_cons, Chars.dropBlank, dropWhile_cons, isBlankPart, Option.any_some, ih]
      split_ifs <;> rfl

theorem reverse_fill : (fill name t).reverse = fill name.reverse t.reverse := by
  induction t with
  | nil => rfl
  | cons part t ih => cases part <;> simp [ih]

def trim : Template := ((t.dropWhile isBlankPart).reverse.dropWhile isBlankPart).reverse

theorem trim_fill (hname : IsWordName name) : Chars.trim (fill name t) = fill name (trim t) := by
  have hne : name.reverse ≠ [] := mt reverse_eq_nil_iff.1 hname.ne_nil
  have hword : ∀ c ∈ name.reverse, isWord c = true := fun c hc =>
    hname.isWord c (mem_reverse.1 hc)
  rw [Chars.trim, dropBlank_fill t hname.ne_nil hname.isWord, reverse_fill,
    dropBlank_fill _ hne hword, reverse_fill, reverse_reverse]
  rfl

def dropEnd (mark : Char) : Template := if t.getLast? = some (some mark) then t.dropLast else t

theorem dropEnd_fill (hname : IsWordName name) (hmark : isWord mark = false) :
    Chars.dropEnd (fill name t) [mark] = fill name (dropEnd t mark) := by
  have hlast : ∀ cs, [mark].isSuffixOf cs = true ↔ cs.getLast? = some mark := by
    intro cs
    rw [isSuffixOf_iff_suffix, getLast?_eq_some_iff]
    exact ⟨fun ⟨before, h⟩ => ⟨before, h.symm⟩, fun ⟨before, h⟩ => ⟨before, h.symm⟩⟩
  rw [Chars.dropEnd, dropEnd]
  rcases eq_nil_or_concat' t with rfl | ⟨t, _ | c, rfl⟩
  · rfl
  · rw [if_neg, if_neg]
    · rw [getLast?_concat]
      rintro ⟨⟩
    · rw [hlast, fill_append, fill_none_cons, fill_nil, append_nil,
        getLast?_append_of_ne_nil _ hname.ne_nil]
      intro h
      have hword := hname.isWord mark (mem_of_getLast? h)
      rw [hmark] at hword
      cases hword
  · rw [fill_append, fill_some_cons, fill_nil, getLast?_concat, dropLast_concat]
    by_cases hc : c = mark
    · subst hc
      rw [if_pos ((hlast _).2 getLast?_concat), if_pos rfl, length_append,
        length_singleton, Nat.add_sub_cancel, take_left]
    · rw [if_neg, if_neg, fill_append, fill_some_cons, fill_nil]
      · exact fun h => hc (Option.some.inj (Option.some.inj h))
      · rw [hlast, getLast?_concat]
        exact fun h => hc (Option.some.inj h)

/-- The template without a word at its start, which need not be a whole one. -/
def dropStart (word : List Char) : Template :=
  if word.map some <+: t then t.drop word.length else t

theorem dropStart_fill {word : List Char} (hname : IsWordName name) (ht : t.IsChain Apart)
    (hword : ∀ c ∈ word, isWord c = true) (hstart : ¬ word <+: name) :
    Chars.dropStart (fill name t) word = fill name (dropStart t word) := by
  rw [Chars.dropStart, dropStart]
  by_cases h : word.map some <+: t
  · obtain ⟨rest, rfl⟩ := h
    have hdrop : (word.map some ++ rest).drop word.length = rest := by
      rw [drop_append_of_le_length (by simp)]
      simp
    rw [if_pos (prefix_append _ rest), hdrop, fill_append, fill_map_some,
      if_pos (List.isPrefixOf_iff_prefix.2 (prefix_append _ _)), drop_left]
  · have hnot : ¬ word <+: fill name t := by
      intro hprefix
      by_cases hhead : t.head? = some none
      · obtain ⟨rest, rfl⟩ := head?_eq_some_iff.1 hhead
        exact hstart (prefix_of_hole hname hword ht hprefix)
      · exact h (map_some_prefix_of_fill hword ht hhead hprefix)
    rw [if_neg h, if_neg (mt isPrefixOf_iff_prefix.1 hnot)]

theorem mem_fill (hname : IsWordName name) (hmark : isWord mark = false) :
    mark ∈ fill name t ↔ some mark ∈ t := by
  have hnot : mark ∉ name := by
    intro h
    have hword := hname.isWord mark h
    rw [hmark] at hword
    cases hword
  induction t with
  | nil => simp
  | cons part t ih => cases part <;> simp [ih, hnot]

theorem contains_fill (hname : IsWordName name) (hmark : isWord mark = false) :
    Chars.contains (fill name t) [mark] = decide (some mark ∈ t) := by
  rw [Bool.eq_iff_iff, Chars.contains_iff_infix, decide_eq_true_eq, ← mem_fill t hname hmark,
    singleton_infix_iff]

theorem exists_cut {t : Template} (hmark : isWord mark = false) (h : some mark ∈ t) :
    ∃ before after, before ++ some mark :: after = t ∧ ∀ name, IsWordName name →
      Chars.cutFirst? (fill name t) [mark] = some (fill name before, fill name after) := by
  obtain ⟨before, after, rfl, hbefore⟩ := eq_append_cons_of_mem h
  refine ⟨before, after, rfl, fun name hname => ?_⟩
  have hnot : mark ∉ fill name before := mt (mem_fill before hname hmark).1 hbefore
  rw [fill_append, fill_some_cons, Chars.cutFirst?, Chars.index?_of_notMem hnot, Option.map_some,
    take_left, ← drop_drop, drop_left]
  rfl

theorem cutFirst?_eq_none {t : Template} (hname : IsWordName name) (hmark : isWord mark = false)
    (h : some mark ∉ t) : Chars.cutFirst? (fill name t) [mark] = none := by
  have hcontains := contains_fill t hname hmark
  rw [decide_eq_false h, Chars.contains, Option.isSome_eq_false_iff, Option.isNone_iff_eq_none]
    at hcontains
  rw [Chars.cutFirst?, hcontains, Option.map_none]

theorem fill_eq_word_iff {word : List Char} (hname : IsWordName name) (ht : t.IsChain Apart)
    (hword : ∀ c ∈ word, isWord c = true) (hne : word ≠ name) :
    fill name t = word ↔ t = word.map some := by
  refine ⟨fun h => ?_, fun h => by rw [h, fill_map_some]⟩
  by_cases hhead : t.head? = some none
  · obtain ⟨rest, rfl⟩ := head?_eq_some_iff.1 hhead
    have hlonger := prefix_of_hole hname hword ht (by rw [← fill_none_cons, h])
    have hname' : name <+: word := by
      rw [← h]
      exact prefix_append name _
    exact absurd (hlonger.eq_of_length_le hname'.length_le) hne
  · obtain ⟨rest, rfl⟩ := map_some_prefix_of_fill hword ht hhead (by rw [h])
    rw [fill_append, fill_map_some] at h
    have hempty : fill name rest = [] := append_cancel_left (h.trans (append_nil word).symm)
    have hrest := isEmpty_fill hname rest
    rw [hempty, isEmpty_nil, eq_comm, List.isEmpty_iff] at hrest
    rw [hrest, append_nil]

end

end BindingStubs.Pattern.Template
