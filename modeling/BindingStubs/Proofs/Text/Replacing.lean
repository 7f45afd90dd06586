import BindingStubs.Proofs.Pattern.Holes

set_option autoImplicit false

/-! # Parts that are replaced -/

namespace BindingStubs.Chars

open List Pattern

theorem replace_append_of_notMem {c : Char} {cs : List Char} (h : c ∉ cs)
    (tail new rest : List Char) :
    replace (cs ++ rest) (c :: tail) new = cs ++ replace rest (c :: tail) new := by
  induction cs with
  | nil => rfl
  | cons d cs ih =>
    rw [mem_cons, not_or] at h
    rw [replace, cons_append, replaceLoop, if_neg (by simp [h.1])]
    exact congrArg (d :: ·) (ih h.2)

theorem replace_singleton (c : Char) (cs : List Char) : replace cs [c] [] = cs.filter (· != c) := by
  induction cs with
  | nil => rfl
  | cons d cs ih =>
    by_cases h : d = c
    · subst h
      simpa [replace, replaceLoop] using ih
    · rw [replace, replaceLoop, if_neg (by simp [Ne.symm h]),
        filter_cons_of_pos (by simpa using h)]
      exact congrArg (d :: ·) ih

section
variable {name : List Char}

theorem replace_cons {c : Char} {rest : List Char} (h : ¬ name <+: c :: rest) (new : List Char) :
    replace (c :: rest) name new = c :: replace rest name new := by
  rw [replace, replaceLoop, if_neg (mt isPrefixOf_iff_prefix.1 h), replace]

theorem replace_eq_self (hne : name ≠ []) (new : List Char) {cs : List Char}
    (h : ¬ name <:+: cs) : replace cs name new = cs := by
  induction cs using occurrence_induction hne with
  | nil => rfl
  | found rest ih => exact absurd (prefix_append name rest).isInfix h
  | other c rest hc ih =>
    rw [replace_cons hc, ih fun hrest => h (hrest.trans (suffix_cons c rest).isInfix)]

theorem mem_of_mem_replace (hne : name ≠ []) {new cs : List Char} {c : Char}
    (h : c ∈ replace cs name new) : c ∈ cs ∨ (c ∈ new ∧ name <:+: cs) := by
  induction cs using occurrence_induction hne with
  | nil => exact Or.inl h
  | found rest ih =>
    rw [replace_append hne] at h
    rcases mem_append.1 h with hnew | hrest
    · exact Or.inr ⟨hnew, (prefix_append name rest).isInfix⟩
    · exact (ih hrest).imp (mem_append_right name)
        (And.imp_right fun hfound => hfound.trans (suffix_append name rest).isInfix)
  | other d rest hd ih =>
    rw [replace_cons hd] at h
    rcases mem_cons.1 h with rfl | hrest
    · exact Or.inl mem_cons_self
    · exact (ih hrest).imp (mem_cons_of_mem d)
        (And.imp_right fun hfound => hfound.trans (suffix_cons d rest).isInfix)

theorem countP_replace (hne : name ≠ []) {new : List Char} {p : Char → Bool}
    (hnew : new.countP p < name.countP p) (cs : List Char) :
    (replace cs name new).countP p ≤ cs.countP p ∧
      (name <:+: cs → (replace cs name new).countP p < cs.countP p) := by
  induction cs using occurrence_induction hne with
  | nil => exact ⟨Nat.le_refl _, fun h => absurd (infix_nil.1 h) hne⟩
  | found rest ih =>
    rw [replace_append hne, countP_append, countP_append]
    omega
  | other c rest hc ih =>
    rw [replace_cons hc, countP_cons, countP_cons, infix_cons_iff]
    refine ⟨by omega, fun h => ?_⟩
    have hlater := ih.2 (h.resolve_left hc)
    omega

theorem count_replace (hne : name ≠ []) {new : List Char} {c : Char}
    (hnew : new.count c = name.count c) (cs : List Char) :
    (replace cs name new).count c = cs.count c := by
  induction cs using occurrence_induction hne with
  | nil => rfl
  | found rest ih =>
    rw [replace_append hne, count_append, count_append, hnew, ih]
  | other d rest hd ih => rw [replace_cons hd, count_cons, count_cons, ih]

theorem replace_append_rest (hne : name ≠ []) (new : List Char) {rest : List Char}
    (hrest : ∀ c ∈ rest.head?, c ∉ name) (cs : List Char) :
    replace (cs ++ rest) name new = replace cs name new ++ replace rest name new := by
  induction cs using occurrence_induction hne with
  | nil => rfl
  | found later ih =>
    rw [append_assoc, replace_append hne, replace_append hne, ih, append_assoc]
  | other c later hc ih =>
    rw [cons_append, replace_cons, replace_cons hc, ih, cons_append]
    intro hstart
    rcases prefix_or_prefix_of_prefix hstart (prefix_append (c :: later) rest) with
      hshort | ⟨part, rfl⟩
    · exact hc hshort
    cases part with
    | nil => exact hc (by rw [append_nil])
    | cons d part =>
      obtain ⟨after, rfl⟩ := (prefix_append_right_inj (c :: later)).1 hstart
      exact hrest d rfl (mem_append_right _ mem_cons_self)

theorem replace_append_tail (hne : name ≠ []) (new : List Char) {tail : List Char}
    (htail : ∀ c ∈ tail, c ∉ name) (cs : List Char) :
    replace (cs ++ tail) name new = replace cs name new ++ tail := by
  have hfree : ¬ name <:+: tail := by
    intro hfound
    obtain ⟨c, rest, rfl⟩ := exists_cons_of_ne_nil hne
    exact htail c (hfound.subset mem_cons_self) mem_cons_self
  rw [replace_append_rest hne new (fun c hc => htail c (mem_of_mem_head? hc)),
    replace_eq_self hne new hfree]

theorem exists_last_replace (hne : name ≠ []) {new : List Char} (hnew : new ≠ []) {mark : Char}
    (hmark : mark ∉ new) (cs : List Char) :
    cs = [] ∨ cs.getLast? = some mark ∨
      ∃ front last, replace cs name new = front ++ [last] ∧ last ≠ mark := by
  induction cs using occurrence_induction hne with
  | nil => exact .inl rfl
  | found rest ih =>
    rw [replace_append hne]
    rcases ih with rfl | hlast | ⟨front, last, hfront, hlast⟩
    · refine .inr (.inr ⟨new.dropLast, new.getLast hnew, ?_, fun h => hmark ?_⟩)
      · rw [dropLast_append_getLast, replace, replaceLoop, append_nil]
      · exact h ▸ getLast_mem hnew
    · exact .inr (.inl (by rw [getLast?_append, hlast]; rfl))
    · exact .inr (.inr ⟨new ++ front, last, by rw [hfront, append_assoc], hlast⟩)
  | other c rest hc ih =>
    rw [replace_cons hc]
    rcases ih with rfl | hlast | ⟨front, last, hfront, hlast⟩
    · by_cases h : c = mark
      · exact .inr (.inl (congrArg some h))
      · exact .inr (.inr ⟨[], c, rfl, h⟩)
    · exact .inr (.inl (by rw [getLast?_cons, hlast]; rfl))
    · exact .inr (.inr ⟨c :: front, last, by rw [hfront, cons_append], hlast⟩)

theorem pair_infix_cons {a b c : Char} {cs : List Char} :
    [a, b] <:+: c :: cs ↔ (c = a ∧ cs.head? = some b) ∨ [a, b] <:+: cs := by
  rw [infix_cons_iff, cons_prefix_cons, eq_comm (a := a)]
  cases cs with
  | nil => simp
  | cons d cs => rw [cons_prefix_cons, head?_cons, Option.some_inj, eq_comm (a := b)]; simp

theorem not_pair_replace {a b c d : Char} (hca : c ≠ a) (hcd : c ≠ d) {cs : List Char}
    (h : d = b ∨ ¬ [a, d] <:+: cs) : ¬ [a, d] <:+: replace cs [a, b] [c] := by
  have hhead : ∀ cs, (replace cs [a, b] [c]).head? = some d → cs.head? = some d := by
    intro cs hcs
    induction cs using occurrence_induction (cons_ne_nil a [b]) with
    | nil => exact hcs
    | found rest ih =>
      rw [replace_append (cons_ne_nil a [b])] at hcs
      exact absurd (Option.some.inj hcs) hcd
    | other x rest hx ih =>
      rw [replace_cons hx] at hcs
      exact hcs
  induction cs using occurrence_induction (cons_ne_nil a [b]) with
  | nil => simp [replace, replaceLoop]
  | found rest ih =>
    rw [replace_append (cons_ne_nil a [b]), singleton_append, pair_infix_cons]
    rintro (⟨hc, -⟩ | hrest)
    · exact hca hc
    · refine ih (h.imp_right fun hnone hmore => hnone ?_) hrest
      exact hmore.trans (suffix_append [a, b] rest).isInfix
  | other x rest hx ih =>
    rw [replace_cons hx, pair_infix_cons]
    rintro (⟨rfl, hnext⟩ | hrest)
    · have hpair : [x, d] <+: x :: rest := by
        obtain ⟨tail, rfl⟩ := head?_eq_some_iff.1 (hhead rest hnext)
        exact prefix_append [x, d] tail
      rcases h with rfl | hnone
      · exact hx hpair
      · exact hnone hpair.isInfix
    · refine ih (h.imp_right fun hnone hmore => hnone ?_) hrest
      exact hmore.trans (suffix_cons x rest).isInfix

end

end BindingStubs.Chars
