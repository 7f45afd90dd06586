import BindingStubs.Text.Basic
import Mathlib.Data.List.Basic
import Mathlib.Data.List.Infix

set_option autoImplicit false

/-! # Searching and splitting texts -/

namespace BindingStubs.Chars

open List

theorem isSome_indexFrom (part : List Char) (base : Nat) (cs : List Char) :
    (indexFrom part base cs).isSome = true ↔ part <:+: cs := by
  induction cs generalizing base with
  | nil =>
    cases part with
    | nil => simp [indexFrom]
    | cons c part => simp [indexFrom]
  | cons c cs ih =>
    rw [indexFrom, infix_cons_iff, ← ih (base + 1)]
    split
    · next h => simp [List.isPrefixOf_iff_prefix.1 h]
    · next h => simp [mt isPrefixOf_iff_prefix.2 h]

theorem contains_iff_infix {cs part : List Char} : contains cs part = true ↔ part <:+: cs :=
  isSome_indexFrom part 0 cs

theorem indexFrom_of_notMem {c : Char} {before : List Char} (h : c ∉ before) (base : Nat)
    (after : List Char) :
    indexFrom [c] base (before ++ c :: after) = some (base + before.length) := by
  induction before generalizing base with
  | nil => simp [indexFrom]
  | cons d before ih =>
    rw [mem_cons, not_or] at h
    rw [cons_append, indexFrom, if_neg (by simpa using h.1), ih h.2]
    simp [Nat.add_comm, Nat.add_left_comm]

theorem index?_of_notMem {c : Char} {before : List Char} (h : c ∉ before) (after : List Char) :
    index? (before ++ c :: after) [c] = some before.length := by
  rw [index?, indexFrom_of_notMem h, Nat.zero_add]

theorem lastIndexFrom_eq_none {c : Char} {cs : List Char} (h : c ∉ cs) (base : Nat) :
    lastIndexFrom [c] base cs = none := by
  induction cs generalizing base with
  | nil => rfl
  | cons d cs ih =>
    rw [mem_cons, not_or] at h
    rw [lastIndexFrom, ih h.2]
    simpa using h.1

theorem lastIndexFrom_of_notMem {c : Char} (before : List Char) {after : List Char} (h : c ∉ after)
    (base : Nat) :
    lastIndexFrom [c] base (before ++ c :: after) = some (base + before.length) := by
  induction before generalizing base with
  | nil => simp [lastIndexFrom, lastIndexFrom_eq_none h]
  | cons d before ih =>
    rw [cons_append, lastIndexFrom, ih]
    simp [Nat.add_comm, Nat.add_left_comm]

theorem lastIndex?_of_notMem {c : Char} (before : List Char) {after : List Char} (h : c ∉ after) :
    lastIndex? (before ++ c :: after) [c] = some before.length := by
  rw [lastIndex?, lastIndexFrom_of_notMem before h, Nat.zero_add]

theorem exists_last {c : Char} {cs : List Char} (h : c ∈ cs) :
    ∃ before after, cs = before ++ c :: after ∧ c ∉ after := by
  obtain ⟨after, before, hcs, hnot⟩ := eq_append_cons_of_mem (mem_reverse.2 h)
  refine ⟨before.reverse, after.reverse, ?_, by simpa using hnot⟩
  rw [← reverse_reverse cs, hcs]
  simp

theorem lastIndex?_lt {c : Char} {cs : List Char} {i : Nat} (h : lastIndex? cs [c] = some i) :
    i < cs.length := by
  by_cases hmem : c ∈ cs
  · obtain ⟨before, after, rfl, hnot⟩ := exists_last hmem
    rw [lastIndex?_of_notMem before hnot, Option.some.injEq] at h
    simp [← h]
  · rw [lastIndex?, lastIndexFrom_eq_none hmem] at h
    cases h

section
variable {c : Char} {sep : List Char}

theorem splitLoop_append {cs : List Char} (h : c ∉ cs) (piece rest : List Char) :
    splitLoop (c :: sep) 0 piece (cs ++ rest) = splitLoop (c :: sep) 0 (cs.reverse ++ piece) rest := by
  induction cs generalizing piece with
  | nil => rfl
  | cons d cs ih =>
    rw [mem_cons, not_or] at h
    rw [cons_append, splitLoop, if_neg (by simp [h.1]), ih h.2]
    simp

theorem splitLoop_skip (sep skipped rest : List Char) :
    splitLoop sep skipped.length [] (skipped ++ rest) = split rest sep := by
  induction skipped with
  | nil => rfl
  | cons d skipped ih => exact ih

theorem splitLoop_separator (piece rest : List Char) :
    splitLoop (c :: sep) 0 piece (c :: (sep ++ rest)) = piece.reverse :: split rest (c :: sep) := by
  have hstarts : (c :: sep).isPrefixOf (c :: (sep ++ rest)) = true := by simp
  rw [splitLoop, if_pos hstarts, length_cons, Nat.add_sub_cancel, splitLoop_skip]

theorem split_intercalate {pieces : List (List Char)} (hne : pieces ≠ [])
    (h : ∀ piece ∈ pieces, c ∉ piece) :
    split ((c :: sep).intercalate pieces) (c :: sep) = pieces := by
  induction pieces with
  | nil => exact absurd rfl hne
  | cons piece others ih =>
    have hpiece : c ∉ piece := h piece mem_cons_self
    cases others with
    | nil =>
      rw [intercalate_singleton, split, ← append_nil piece, splitLoop_append hpiece]
      simp [splitLoop]
    | cons second others =>
      rw [intercalate_cons_cons, append_assoc, cons_append, split,
        splitLoop_append hpiece, splitLoop_separator,
        ih (by simp) fun p hp => h p (mem_cons_of_mem _ hp)]
      simp

end

theorem cutFirst?_of_notMem {c : Char} {before : List Char} (h : c ∉ before) (after : List Char) :
    cutFirst? (before ++ c :: after) [c] = some (before, after) := by
  rw [cutFirst?, index?_of_notMem h, Option.map_some, take_left]
  simp

theorem cutFirst?_eq_none {c : Char} {cs : List Char} (h : c ∉ cs) : cutFirst? cs [c] = none := by
  rw [cutFirst?, Option.map_eq_none_iff, ← Option.not_isSome_iff_eq_none, index?,
    isSome_indexFrom, singleton_infix_iff]
  exact h

theorem eq_of_prefix_concat {c : Char} {front front' rest : List Char} (h : c ∉ front)
    (h' : c ∉ front') (hstarts : front' ++ [c] <+: front ++ [c] ++ rest) : front' = front := by
  obtain ⟨rest', hrest'⟩ := hstarts
  have hsplit : front' ++ c :: rest' = front ++ c :: rest := by
    simpa only [append_assoc, singleton_append] using hrest'
  have hcut := cutFirst?_of_notMem h' rest'
  rw [hsplit, cutFirst?_of_notMem h, Option.some.injEq, Prod.mk.injEq] at hcut
  exact hcut.1.symm

theorem prefix_of_notMem {c : Char} {part front rest : List Char} (h : c ∉ part)
    (hstarts : part <+: front ++ c :: rest) : part <+: front := by
  rcases prefix_or_prefix_of_prefix hstarts (prefix_append front (c :: rest)) with
    hshort | ⟨more, rfl⟩
  · exact hshort
  · rw [prefix_append_right_inj] at hstarts
    cases more with
    | nil => rw [append_nil]
    | cons d more =>
      obtain rfl : d = c := (cons_prefix_cons.1 hstarts).1
      exact absurd (mem_append_right front mem_cons_self) h

end BindingStubs.Chars

namespace BindingStubs.Text

theorem split_join {sep : String} {c : Char} {more : List Char} (hsep : sep.toList = c :: more)
    {pieces : List String} (hne : pieces ≠ []) (h : ∀ piece ∈ pieces, c ∉ piece.toList) :
    split (join sep pieces) sep = pieces := by
  have hpieces : ∀ piece ∈ pieces.map String.toList, c ∉ piece := by
    simpa using h
  rw [split, join, String.toList_intercalate, hsep,
    Chars.split_intercalate (by simpa using hne) hpieces]
  simp [Function.comp_def]

end BindingStubs.Text
