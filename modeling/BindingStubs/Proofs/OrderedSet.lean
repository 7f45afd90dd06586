import BindingStubs.OrderedSet
import Mathlib.Data.List.Basic

set_option autoImplicit false

/-! # Members of insertion-ordered sets -/

namespace BindingStubs.OrderedSet

open List

variable {α : Type} [DecidableEq α]

theorem ext {s t : OrderedSet α} (h : s.toList = t.toList) : s = t := by
  cases s
  cases t
  cases h
  rfl

theorem insert_of_mem {s : OrderedSet α} {a : α} (h : a ∈ s.toList) : s.insert a = s := by
  apply ext
  rw [toList_insert, if_pos h]

theorem insertAll_cons (s : OrderedSet α) (a : α) (items : List α) :
    s.insertAll (a :: items) = (s.insert a).insertAll items := rfl

theorem insertAll_append (s : OrderedSet α) (items more : List α) :
    s.insertAll (items ++ more) = (s.insertAll items).insertAll more :=
  foldl_append

theorem toList_insertAll (s : OrderedSet α) (items : List α) :
    (s.insertAll items).toList = s.toList ++ (items.filter (· ∉ s.toList)).eraseDups := by
  induction items generalizing s with
  | nil => simp [insertAll]
  | cons a items ih =>
    by_cases ha : a ∈ s.toList
    · rw [insertAll_cons, ih, insert_of_mem ha, filter_cons_of_neg (by simpa using ha)]
    · rw [insertAll_cons, ih, toList_insert, if_neg ha, filter_cons_of_pos (by simpa using ha),
        eraseDups_cons, filter_filter, append_assoc, singleton_append]
      congr 3
      refine filter_congr fun b _ => ?_
      simp [Bool.and_comm, Bool.beq_eq_decide_eq]

theorem toList_ofList (items : List α) : (ofList items).toList = items.eraseDups := by
  rw [ofList, toList_insertAll, toList_empty]
  simp

theorem nodup_eraseDups (items : List α) : items.eraseDups.Nodup := by
  rw [← toList_ofList]
  exact (ofList items).nodup

theorem eraseDups_concat (items : List α) (a : α) : (items ++ [a]).eraseDups =
    if a ∈ items.eraseDups then items.eraseDups else items.eraseDups ++ [a] := by
  rw [← toList_ofList, ofList, insertAll_append, insertAll_cons, ← toList_ofList, ← toList_insert]
  rfl

theorem mem_insertAll {s : OrderedSet α} {items : List α} {a : α} :
    a ∈ (s.insertAll items).toList ↔ a ∈ s.toList ∨ a ∈ items := by
  rw [toList_insertAll, mem_append, mem_eraseDups, mem_filter]
  by_cases ha : a ∈ s.toList <;> simp [ha]

theorem insertAll_filterMap_insertAll {β : Type} [DecidableEq β] (f : α → Option β)
    (s : OrderedSet β) (t : OrderedSet α) (items : List α) :
    s.insertAll ((t.insertAll items).toList.filterMap f) =
      (s.insertAll (t.toList.filterMap f)).insertAll (items.filterMap f) := by
  induction items generalizing t with
  | nil => rfl
  | cons a items ih =>
    rw [insertAll_cons, ih, toList_insert]
    cases hf : f a with
    | none =>
      rw [filterMap_cons_none hf]
      split
      · rfl
      · rw [filterMap_append, filterMap_cons_none hf, filterMap_nil, append_nil]
    | some b =>
      rw [filterMap_cons_some hf, insertAll_cons]
      split
      · next ha => rw [insert_of_mem (mem_insertAll.2 (.inr (mem_filterMap.2 ⟨a, ha, hf⟩)))]
      · rw [filterMap_append, filterMap_cons_some hf, insertAll_append]
        rfl

theorem insertAll_toList_insertAll (s t : OrderedSet α) (items : List α) :
    s.insertAll (t.insertAll items).toList = (s.insertAll t.toList).insertAll items := by
  simpa only [filterMap_some] using insertAll_filterMap_insertAll some s t items

theorem eraseDups_map_eraseDups {β : Type} [DecidableEq β] (f : α → β) (items : List α) :
    (items.eraseDups.map f).eraseDups = (items.map f).eraseDups := by
  rw [← toList_ofList, ← toList_ofList, ← toList_ofList, ← filterMap_eq_map, ofList, ofList,
    ofList, insertAll_filterMap_insertAll]
  rfl

theorem eraseDups_of_nodup {items : List α} (h : items.Nodup) : items.eraseDups = items := by
  induction items with
  | nil => rfl
  | cons a items ih =>
    rw [nodup_cons] at h
    rw [eraseDups_cons, filter_eq_self.2, ih h.2]
    intro b hb
    simpa using ne_of_mem_of_not_mem hb h.1

theorem union_ofList (s : OrderedSet α) (items : List α) :
    s.union (ofList items) = s.insertAll items := by
  rw [union, ofList, insertAll_toList_insertAll]
  rfl

end BindingStubs.OrderedSet
