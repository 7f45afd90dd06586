import BindingStubs.Proofs.Pattern.Template

set_option autoImplicit false

/-!
# Renaming in a text

If a name occurs in a text as a whole word only, the text is a template filled with it, and to
replace it everywhere is to fill the template with another name.
-/

namespace BindingStubs

open List

/-- Is every occurrence of a part a word of its own? -/
def Chars.usesWhole (cs part : List Char) : Bool :=
  (List.range (cs.length + 1)).all fun i =>
    !part.isPrefixOf (cs.drop i) ||
      (!(cs.take i).getLast?.any Text.isWord && !(cs.drop (i + part.length)).head?.any Text.isWord)

theorem Chars.of_usesWhole {part before after : List Char}
    (h : usesWhole (before ++ (part ++ after)) part = true) :
    before.getLast?.any Text.isWord = false ∧ after.head?.any Text.isWord = false := by
  have hlength : before.length < (before ++ (part ++ after)).length + 1 := by
    rw [length_append]
    omega
  have hhere := all_eq_true.1 h before.length (mem_range.2 hlength)
  rw [drop_left, take_left, isPrefixOf_iff_prefix.2 (prefix_append part after),
    ← drop_drop, drop_left, drop_left] at hhere
  simpa using hhere

namespace Pattern

open Template

/-- The template of a text with holes for the occurrences of a name; `skip` characters of an
occurrence are still to be passed over. -/
def holes (name : List Char) : (skip : Nat) → List Char → Template
  | _, [] => []
  | skip + 1, _ :: rest => holes name skip rest
  | 0, c :: rest =>
    if name.isPrefixOf (c :: rest) then none :: holes name (name.length - 1) rest
    else some c :: holes name 0 rest

section
variable {name : List Char}

theorem occurrence_induction {P : List Char → Prop} (hname : name ≠ []) (nil : P [])
    (found : ∀ rest, P rest → P (name ++ rest))
    (other : ∀ c rest, ¬ name <+: c :: rest → P rest → P (c :: rest)) (cs : List Char) : P cs := by
  induction hlength : cs.length using Nat.strong_induction_on generalizing cs with
  | _ n ih =>
    cases cs with
    | nil => exact nil
    | cons c cs =>
      by_cases h : name <+: c :: cs
      · obtain ⟨rest, hrest⟩ := h
        have hpos := length_pos_iff.2 hname
        rw [← hrest, length_append] at hlength
        rw [← hrest]
        exact found rest (ih rest.length (by omega) rest rfl)
      · rw [length_cons] at hlength
        exact other c cs h (ih cs.length (by omega) cs rfl)

theorem holes_skip (skipped rest : List Char) :
    holes name skipped.length (skipped ++ rest) = holes name 0 rest := by
  induction skipped with
  | nil => rfl
  | cons c skipped ih => exact ih

theorem holes_append (hname : name ≠ []) (rest : List Char) :
    holes name 0 (name ++ rest) = none :: holes name 0 rest := by
  have hprefix := isPrefixOf_iff_prefix.2 (prefix_append name rest)
  obtain ⟨c, tail, rfl⟩ := exists_cons_of_ne_nil hname
  rw [cons_append] at hprefix ⊢
  rw [holes, hprefix, if_pos rfl]
  exact congrArg (none :: ·) (holes_skip tail rest)

theorem holes_cons {c : Char} {rest : List Char} (h : ¬ name <+: c :: rest) :
    holes name 0 (c :: rest) = some c :: holes name 0 rest := by
  rw [holes, if_neg (mt isPrefixOf_iff_prefix.1 h)]

theorem fill_holes (hname : name ≠ []) (cs : List Char) : fill name (holes name 0 cs) = cs := by
  induction cs using occurrence_induction hname with
  | nil => rfl
  | found rest ih => rw [holes_append hname, fill_none_cons, ih]
  | other c rest h ih => rw [holes_cons h, fill_some_cons, ih]

theorem replaceLoop_skip (new skipped rest : List Char) :
    Chars.replaceLoop name new skipped.length (skipped ++ rest) =
      Chars.replaceLoop name new 0 rest := by
  induction skipped with
  | nil => rfl
  | cons c skipped ih => exact ih

theorem replace_append (hname : name ≠ []) (new rest : List Char) :
    Chars.replace (name ++ rest) name new = new ++ Chars.replace rest name new := by
  have hprefix := isPrefixOf_iff_prefix.2 (prefix_append name rest)
  obtain ⟨c, tail, rfl⟩ := exists_cons_of_ne_nil hname
  rw [cons_append] at hprefix ⊢
  rw [Chars.replace, Chars.replaceLoop, hprefix, if_pos rfl]
  exact congrArg (new ++ ·) (replaceLoop_skip new tail rest)

theorem fill_holes_new (hname : name ≠ []) (new cs : List Char) :
    fill new (holes name 0 cs) = Chars.replace cs name new := by
  induction cs using occurrence_induction hname with
  | nil => rfl
  | found rest ih => rw [holes_append hname, fill_none_cons, ih, replace_append hname]
  | other c rest h ih =>
    rw [holes_cons h, fill_some_cons, ih, Chars.replace, Chars.replace, Chars.replaceLoop,
      if_neg (mt isPrefixOf_iff_prefix.1 h)]

theorem eq_holes_of_append (hname : name ≠ []) {cs : List Char} {pre post : Template}
    (h : holes name 0 cs = pre ++ post) : post = holes name 0 (fill name post) := by
  induction cs using occurrence_induction hname generalizing pre with
  | nil =>
    obtain ⟨-, rfl⟩ := nil_eq_append_iff.1 h
    rfl
  | found rest ih =>
    cases pre with
    | nil => rw [← nil_append post, ← h, fill_holes hname]
    | cons part pre =>
      rw [holes_append hname] at h
      exact ih (List.cons.inj h).2
  | other c rest hc ih =>
    cases pre with
    | nil => rw [← nil_append post, ← h, fill_holes hname]
    | cons part pre =>
      rw [holes_cons hc] at h
      exact ih (List.cons.inj h).2

theorem eq_holes_of_prefix (hname : name ≠ []) {part post : Template}
    (h : part ++ post = holes name 0 (fill name (part ++ post))) :
    part = holes name 0 (fill name part) := by
  induction part with
  | nil => rfl
  | cons first part ih =>
    rw [cons_append] at h
    cases first with
    | none =>
      rw [fill_none_cons, holes_append hname] at h
      rw [fill_none_cons, holes_append hname, ← ih (List.cons.inj h).2]
    | some c =>
      rw [fill_some_cons] at h
      have hwhole : ¬ name <+: c :: fill name (part ++ post) := by
        rintro ⟨rest, hrest⟩
        rw [← hrest, holes_append hname] at h
        cases (List.cons.inj h).1
      have hpart : ¬ name <+: c :: fill name part := fun hstart =>
        hwhole (hstart.trans ⟨fill name post, by rw [fill_append, cons_append]⟩)
      rw [holes_cons hwhole] at h
      rw [fill_some_cons, holes_cons hpart, ← ih (List.cons.inj h).2]

theorem fill_part (hname : name ≠ []) {cs : List Char} {part : Template}
    (h : part <:+: holes name 0 cs) (new : List Char) :
    fill new part = Chars.replace (fill name part) name new := by
  obtain ⟨pre, post, h⟩ := h
  rw [append_assoc] at h
  have hpart := eq_holes_of_prefix hname (eq_holes_of_append hname h.symm)
  rw [← fill_holes_new hname, ← hpart]

theorem notSpelled_holes (hname : name ≠ []) (cs : List Char) :
    ¬ name.map some <:+: holes name 0 cs := by
  rintro ⟨pre, post, h⟩
  rw [append_assoc] at h
  have hpost := eq_holes_of_append hname h.symm
  rw [fill_append, fill_map_some, holes_append hname] at hpost
  obtain ⟨c, tail, rfl⟩ := exists_cons_of_ne_nil hname
  cases (List.cons.inj hpost).1

theorem fill_isInfix (name : List Char) {part t : Template} (h : part <:+: t) :
    fill name part <:+: fill name t := by
  obtain ⟨pre, post, rfl⟩ := h
  rw [fill_append, fill_append]
  exact ⟨_, _, rfl⟩

theorem isChain_holes (hname : IsWordName name) {cs : List Char}
    (h : Chars.usesWhole cs name = true) : (holes name 0 cs).IsChain Apart := by
  have hword : ∀ c, Text.isWord c = true → Text.isWord c = true := fun _ hc => hc
  rw [isChain_iff_forall_rel_of_append_cons_cons]
  intro a b pre post hab hnone
  have hcs := fill_holes hname.ne_nil cs
  rcases hnone with rfl | rfl
  · rw [hab, fill_append, fill_none_cons] at hcs
    rw [← hcs] at h
    have hafter := (Chars.of_usesWhole h).2
    rw [any_head?_fill hname hword] at hafter
    exact .inr hafter
  · rw [hab, ← singleton_append, ← append_assoc, fill_append, fill_none_cons] at hcs
    rw [← hcs] at h
    have hbefore := (Chars.of_usesWhole h).1
    rw [any_getLast?_fill hname hword, getLast?_concat] at hbefore
    exact .inl hbefore

theorem fits_holes (hname : IsWordName name) {new cs : List Char} (hnew : IsWordName new)
    (hwhole : Chars.usesWhole cs name = true) (hfresh : ¬ new <:+: cs) :
    Fits name new (holes name 0 cs) where
  left := hname
  right := hnew
  apart := isChain_holes hname hwhole
  notSpelled := notSpelled_holes hname.ne_nil cs
  notSpelled' := by
    intro h
    have hspelled := fill_isInfix name h
    rw [fill_map_some, fill_holes hname.ne_nil] at hspelled
    exact hfresh hspelled

end

end Pattern

end BindingStubs
