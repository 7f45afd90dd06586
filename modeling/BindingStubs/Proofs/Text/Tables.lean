import BindingStubs.Text.Basic
import Mathlib.Data.List.Chain
import Mathlib.Data.List.GetD
import Mathlib.Data.List.TakeWhile

set_option autoImplicit false

/-! # Tables of boundaries -/

namespace BindingStubs.Text

open List

structure IsTable (bounds : List Nat) : Prop where
  ascending : bounds.IsChain (· < ·)
  paired : bounds.length % 2 = 0
  short : bounds.length < Nat.pow 2 32

instance (bounds : List Nat) : Decidable (IsTable bounds) :=
  decidable_of_iff (bounds.IsChain (· < ·) ∧ bounds.length % 2 = 0 ∧ bounds.length < Nat.pow 2 32)
    ⟨fun ⟨h₁, h₂, h₃⟩ => ⟨h₁, h₂, h₃⟩, fun ⟨h₁, h₂, h₃⟩ => ⟨h₁, h₂, h₃⟩⟩

theorem IsTable.le {bounds : List Nat} (h : IsTable bounds) {i j : Nat} (le : i ≤ j)
    (hj : j < bounds.length) : bounds.getD i 0 ≤ bounds.getD j 0 := by
  rw [getD_eq_getElem _ _ hj, getD_eq_getElem _ _ (Nat.lt_of_le_of_lt le hj)]
  rcases Nat.eq_or_lt_of_le le with rfl | lt
  · exact Nat.le_refl _
  · have ascending := isChain_iff_pairwise.mp h.ascending
    exact Nat.le_of_lt (pairwise_iff_getElem.mp ascending i j _ hj lt)

/-- A number of boundaries at the start of a table are passed by a code point, and no more. -/
structure Passes (bounds : List Nat) (code count : Nat) : Prop where
  within : count ≤ bounds.length
  passed : ∀ i < count, bounds.getD i 0 ≤ code
  ahead : ∀ i, count ≤ i → i < bounds.length → code < bounds.getD i 0

theorem passes_boundsUpTo {table : Array Nat} (htable : IsTable table.toList) (code : Nat)
    {fuel lo hi : Nat} (ordered : lo ≤ hi) (within : hi ≤ table.toList.length)
    (enough : hi - lo < Nat.pow 2 fuel) (passed : ∀ i < lo, table.toList.getD i 0 ≤ code)
    (ahead : ∀ i, hi ≤ i → i < table.toList.length → code < table.toList.getD i 0) :
    Passes table.toList code (boundsUpTo table code fuel lo hi) := by
  induction fuel generalizing lo hi with
  | zero =>
    have same : lo = hi := by
      rw [show Nat.pow 2 0 = 1 from rfl] at enough
      omega
    exact ⟨same ▸ within, passed, same ▸ ahead⟩
  | succ fuel ih =>
    rw [boundsUpTo]
    split
    · next lt =>
      have halved : Nat.pow 2 (fuel + 1) = Nat.pow 2 fuel * 2 := rfl
      have entry : table.getD ((lo + hi) / 2) 0 = table.toList.getD ((lo + hi) / 2) 0 := by simp
      dsimp only
      rw [entry]
      split
      · next below =>
        refine ih (by omega) within (by omega) (fun i hi => ?_) ahead
        exact Nat.le_trans (htable.le (by omega) (by omega)) below
      · next above =>
        refine ih (by omega) (by omega) (by omega) passed fun i hi short => ?_
        exact Nat.lt_of_lt_of_le (Nat.lt_of_not_le above) (htable.le hi short)
    · next ended =>
      have same : lo = hi := by omega
      exact ⟨same ▸ within, passed, same ▸ ahead⟩

def rangesOf : List Nat → List (Nat × Nat)
  | first :: stop :: rest => (first, stop) :: rangesOf rest
  | _ => []

theorem mem_rangesOf {bounds : List Nat} {range : Nat × Nat} :
    range ∈ rangesOf bounds ↔ ∃ j, 2 * j + 1 < bounds.length ∧
      range = (bounds.getD (2 * j) 0, bounds.getD (2 * j + 1) 0) := by
  fun_induction rangesOf bounds with
  | case1 first stop rest ih =>
    rw [mem_cons, ih]
    constructor
    · rintro (rfl | ⟨j, hj, rfl⟩)
      · exact ⟨0, by simp, rfl⟩
      · exact ⟨j + 1, by simp only [length_cons]; omega, rfl⟩
    · rintro ⟨j, hj, rfl⟩
      cases j with
      | zero => exact .inl rfl
      | succ j => exact .inr ⟨j, by simp only [length_cons] at hj; omega, rfl⟩
  | case2 bounds short =>
    have few : bounds.length < 2 := by
      rcases bounds with _ | ⟨first, _ | ⟨stop, rest⟩⟩
      · exact Nat.zero_lt_two
      · exact Nat.one_lt_two
      · exact absurd rfl (short first stop rest)
    simp only [not_mem_nil, false_iff, not_exists]
    omega

theorem inTable_iff {table : Array Nat} (htable : IsTable table.toList) (code : Nat) :
    inTable table code = true ↔ ∃ range ∈ rangesOf table.toList, range.1 ≤ code ∧ code < range.2 := by
  obtain ⟨within, passed, ahead⟩ := passes_boundsUpTo htable code (Nat.zero_le _)
    (Nat.le_refl _) htable.short (by simp) (fun i hi short => absurd short (Nat.not_lt_of_le hi))
  rw [Array.length_toList] at within passed ahead
  have paired := htable.paired
  rw [Array.length_toList] at paired
  rw [inTable, beq_iff_eq]
  constructor
  · intro odd
    refine ⟨_, mem_rangesOf.mpr ⟨boundsUpTo table code 32 0 table.size / 2, ?_, rfl⟩, ?_, ?_⟩
    · rw [Array.length_toList]
      omega
    · exact passed _ (by omega)
    · exact ahead _ (by omega) (by omega)
  · rintro ⟨_, hrange, begun, open_⟩
    obtain ⟨j, hj, rfl⟩ := mem_rangesOf.mp hrange
    rw [Array.length_toList] at hj
    have reached : 2 * j < boundsUpTo table code 32 0 table.size := by
      by_contra h
      exact Nat.not_lt_of_le begun (ahead (2 * j) (by omega) (by omega))
    have left : boundsUpTo table code 32 0 table.size ≤ 2 * j + 1 := by
      by_contra h
      exact Nat.not_lt_of_le (passed (2 * j + 1) (by omega)) open_
    omega

def liesWithin : (outer inner : List (Nat × Nat)) → Bool
  | [], inner => inner.isEmpty
  | (first, stop) :: outer, inner =>
    liesWithin outer (inner.dropWhile fun range => first ≤ range.1 && range.2 ≤ stop)

theorem exists_of_liesWithin {outer inner : List (Nat × Nat)} (h : liesWithin outer inner = true)
    {range : Nat × Nat} (hrange : range ∈ inner) :
    ∃ around ∈ outer, around.1 ≤ range.1 ∧ range.2 ≤ around.2 := by
  induction outer generalizing inner with
  | nil =>
    rw [liesWithin, List.isEmpty_iff] at h
    rw [h] at hrange
    cases hrange
  | cons around outer ih =>
    rw [liesWithin] at h
    rw [← takeWhile_append_dropWhile (p := fun range =>
        decide (around.1 ≤ range.1) && decide (range.2 ≤ around.2)) (l := inner),
      mem_append] at hrange
    rcases hrange with covered | later
    · have fits := mem_takeWhile_imp covered
      rw [Bool.and_eq_true, decide_eq_true_eq, decide_eq_true_eq] at fits
      exact ⟨around, mem_cons_self, fits⟩
    · obtain ⟨found, hfound, fits⟩ := ih h later
      exact ⟨found, mem_cons_of_mem _ hfound, fits⟩

theorem inTable_of_liesWithin {outer inner : Array Nat} (houter : IsTable outer.toList)
    (hinner : IsTable inner.toList)
    (h : liesWithin (rangesOf outer.toList) (rangesOf inner.toList) = true) {code : Nat}
    (hcode : inTable inner code = true) : inTable outer code = true := by
  rw [inTable_iff hinner] at hcode
  rw [inTable_iff houter]
  obtain ⟨range, hrange, begun, open_⟩ := hcode
  obtain ⟨around, haround, before, after⟩ := exists_of_liesWithin h hrange
  exact ⟨around, haround, Nat.le_trans before begun, Nat.lt_of_lt_of_le open_ after⟩

theorem isNamePart_of_isNameStart {c : Char} (h : isNameStart c = true) : isNamePart c = true := by
  rw [isNameStart] at h
  rw [isNamePart]
  split at h
  · next ascii => rw [if_pos ascii, h, Bool.true_or]
  · next foreign =>
    rw [if_neg foreign]
    exact inTable_of_liesWithin (by decide +kernel) (by decide +kernel) (by decide +kernel) h

end BindingStubs.Text
