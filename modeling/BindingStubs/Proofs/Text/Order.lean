import BindingStubs.Proofs.OrderedSet
import BindingStubs.Text.Basic
import Mathlib.Data.List.Sort
import Mathlib.Data.String.Basic

set_option autoImplicit false

/-! # Ascending order -/

namespace BindingStubs.Text

open List

theorem precedes_iff {a b : String} : precedes a b = true ↔ a ≤ b := by
  rw [String.le_iff_toList_le, ← not_lt, precedes, Bool.not_eq_true', decide_eq_false_iff_not]
  exact Iff.rfl

theorem pairwise_lt_mergeSort {α β : Type} [DecidableEq α] [LinearOrder β] {le : α → α → Bool}
    {key : α → β} (hkey : Function.Injective key) (hle : ∀ a b, le a b = true ↔ key a ≤ key b)
    (items : List α) : (items.eraseDups.mergeSort le).Pairwise fun a b => key a < key b := by
  have hordered : (items.eraseDups.mergeSort le).Pairwise fun a b => key a ≤ key b := by
    refine (pairwise_mergeSort (fun a b c => ?_) (fun a b => ?_) _).imp fun h => (hle _ _).1 h
    · simp only [hle]
      exact le_trans
    · simp only [Bool.or_eq_true, hle]
      exact le_total _ _
  have hnodup : (items.eraseDups.mergeSort le).Nodup :=
    (mergeSort_perm _ _).nodup_iff.2 (OrderedSet.nodup_eraseDups items)
  exact hordered.imp₂ (fun _ _ hle hne => lt_of_le_of_ne hle fun h => hne (hkey h)) hnodup

theorem pairwise_lt_eraseDups {items : List String} (h : items.Pairwise (· ≤ ·)) :
    items.eraseDups.Pairwise (· < ·) := by
  induction hitems : items.reverse generalizing items with
  | nil =>
    obtain rfl := reverse_eq_nil_iff.1 hitems
    exact .nil
  | cons last front ih =>
    obtain rfl : items = front.reverse ++ [last] := by simp [← reverse_cons, ← hitems]
    obtain ⟨hfront, -, hlast⟩ := pairwise_append.1 h
    have hrest := ih hfront (reverse_reverse front)
    rw [OrderedSet.eraseDups_concat]
    split_ifs with hmem
    · exact hrest
    · refine pairwise_append.2 ⟨hrest, pairwise_singleton _ _, fun a ha b hb => ?_⟩
      obtain rfl := mem_singleton.1 hb
      refine lt_of_le_of_ne (hlast a (mem_eraseDups.1 ha) b hb) ?_
      rintro rfl
      exact hmem ha

theorem getLast?_eq_some_iff_of_pairwise {α β : Type} [LinearOrder β] {key : α → β} {items : List α}
    (h : items.Pairwise fun a b => key a < key b) {a : α} :
    items.getLast? = some a ↔ a ∈ items ∧ ∀ b ∈ items, key b ≤ key a := by
  rcases items.eq_nil_or_concat with rfl | ⟨front, last, rfl⟩
  · simp
  rw [concat_eq_append, pairwise_append] at h
  have hfront : ∀ b ∈ front, key b < key last := fun b hb => h.2.2 b hb last (by simp)
  simp only [concat_eq_append, getLast?_concat, Option.some.injEq, mem_append,
    mem_singleton]
  constructor
  · rintro rfl
    exact ⟨.inr rfl, fun b hb => hb.elim (fun hb => (hfront b hb).le) fun hb => hb ▸ le_rfl⟩
  · rintro ⟨ha | ha, hle⟩
    · exact absurd (hle last (.inr rfl)) (hfront a ha).not_ge
    · exact ha.symm

end BindingStubs.Text
