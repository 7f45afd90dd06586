import BindingStubs.Proofs.OrderedSet
import BindingStubs.Signature.Parameter
import Mathlib.Logic.Function.Basic

set_option autoImplicit false

/-! # Printing type hints -/

namespace BindingStubs.TypeHint

open List

def others (values : List String) : NameSet := .ofList (values.filter (· ≠ noneText))

/-- A hint holds some values, wherever its `None` stands. -/
structure Holds (a : TypeHint) (values : List String) : Prop where
  others : others a.alternatives.toList = others values
  none : noneText ∈ a.alternatives.toList ↔ noneText ∈ values

theorem others_insertAll (s : NameSet) (items : List String) :
    others (s.insertAll items).toList = (others s.toList).union (others items) := by
  have h := OrderedSet.insertAll_filterMap_insertAll (Option.guard (· ≠ noneText)) .empty s items
  rw [filterMap_eq_filter] at h
  exact h.trans (OrderedSet.union_ofList _ _).symm

theorem others_append (values more : List String) :
    others (values ++ more) = (others values).union (others more) := by
  rw [others, filter_append, OrderedSet.ofList, OrderedSet.insertAll_append]
  exact (OrderedSet.union_ofList _ _).symm

theorem Holds.insertAll {a : TypeHint} {values items added : List String} (h : Holds a values)
    (hothers : TypeHint.others items = TypeHint.others added)
    (hnone : noneText ∈ items ↔ noneText ∈ added) :
    Holds ⟨a.alternatives.insertAll items⟩ (values ++ added) := by
  constructor
  · rw [others_insertAll, others_append, h.others, hothers]
  · rw [OrderedSet.mem_insertAll, mem_append, h.none, hnone]

theorem holds_of_ofList? {a : TypeHint} {values : List String} (h : ofList? values = some a) :
    Holds a values := by
  rw [ofList?] at h
  split at h
  · cases h
  · cases h
    have hempty : Holds ⟨.empty⟩ [] := ⟨rfl, Iff.rfl⟩
    exact hempty.insertAll rfl Iff.rfl

theorem toList_settle (a : TypeHint) : a.settle.alternatives.toList =
    a.alternatives.toList.filter (· ≠ noneText) ++
      if noneText ∈ a.alternatives.toList then [noneText] else [] := by
  rw [settle, OrderedSet.contains, contains_eq_mem]
  by_cases hnone : noneText ∈ a.alternatives.toList
  · have herase : (a.alternatives.erase noneText).toList =
        a.alternatives.toList.filter (· ≠ noneText) :=
      (a.alternatives.nodup.erase_eq_filter noneText).trans (filter_congr fun _ _ => by grind)
    rw [if_pos (by simpa using hnone), if_pos hnone, OrderedSet.toList_insert, herase,
      if_neg (by simp)]
  · rw [if_neg (by simpa using hnone), if_neg hnone, append_nil, filter_eq_self.2]
    intro value hvalue
    exact decide_eq_true (ne_of_mem_of_not_mem hvalue hnone)

theorem Holds.settle {a : TypeHint} {values : List String} (h : Holds a values) :
    Holds a.settle values := by
  have hmoved : TypeHint.others a.settle.alternatives.toList =
      TypeHint.others a.alternatives.toList := by
    rw [toList_settle, TypeHint.others, filter_append, filter_filter]
    split <;> simp [TypeHint.others]
  refine ⟨hmoved.trans h.others, ?_⟩
  rw [← h.none, toList_settle]
  simp

/-- The values besides `None` in order of first mention, and `None` last. -/
def printed (values : List String) : String :=
  Text.join " | " ((values.filter (· ≠ noneText)).eraseDups ++
    if noneText ∈ values then [noneText] else [])

theorem Holds.text {a : TypeHint} {values : List String} (h : Holds a values) :
    a.text = printed values := by
  have hothers := congrArg OrderedSet.toList h.others
  rw [TypeHint.others, TypeHint.others, OrderedSet.toList_ofList, OrderedSet.toList_ofList,
    OrderedSet.eraseDups_of_nodup (a.alternatives.nodup.filter _)] at hothers
  rw [TypeHint.text, printed, toList_settle, hothers]
  simp only [h.none]

/-- What is done with hints that are known by names of some type. -/
inductive Operation (ι : Type) where
  | add (i : ι) (value : String)
  /-- The hint `j` is added to the hint `i`. -/
  | addHint (i j : ι)
  | print (i : ι)

namespace Operation

variable {ι : Type}

def isPrint : Operation ι → Bool
  | print _ => true
  | _ => false

variable [DecidableEq ι]

def apply (hints : ι → TypeHint) : Operation ι → Option String × (ι → TypeHint)
  | add i value => (none, Function.update hints i ((hints i).insert value))
  | addHint i j => (none, Function.update hints i ((hints i).union (hints j)))
  | print i => (some (hints i).text, Function.update hints i (hints i).settle)

def run (hints : ι → TypeHint) (ops : List (Operation ι)) : ι → TypeHint :=
  ops.foldl (fun hints op => (op.apply hints).2) hints

/-- The values that were added to each hint, in order, after one more operation. -/
def record (values : ι → List String) : Operation ι → ι → List String
  | add i value => Function.update values i (values i ++ [value])
  | addHint i j => Function.update values i (values i ++ values j)
  | print _ => values

section
variable {hints : ι → TypeHint} {values : ι → List String} (h : ∀ i, Holds (hints i) (values i))
include h

theorem holds_update (j : ι) {a : TypeHint} {more : List String} (ha : Holds a more) (i : ι) :
    Holds (Function.update hints j a i) (Function.update values j more i) := by
  by_cases hi : i = j
  · subst hi
    simpa using ha
  · simpa [hi] using h i

theorem holds_apply (op : Operation ι) (i : ι) :
    Holds ((op.apply hints).2 i) (op.record values i) := by
  cases op with
  | add j value =>
    have hothers : TypeHint.others [value] = TypeHint.others [value] := rfl
    exact holds_update h j ((h j).insertAll hothers Iff.rfl) i
  | addHint j k => exact holds_update h j ((h j).insertAll (h k).others (h k).none) i
  | print j =>
    have hprinted := holds_update h j (h j).settle i
    rwa [Function.update_eq_self] at hprinted

end

theorem holds_run {hints : ι → TypeHint} {values : ι → List String}
    (h : ∀ i, Holds (hints i) (values i)) (ops : List (Operation ι)) :
    ∀ i, Holds (run hints ops i) (ops.foldl record values i) := by
  induction ops generalizing hints values with
  | nil => exact h
  | cons op ops ih => exact ih (holds_apply h op)

theorem record_filter (values : ι → List String) (ops : List (Operation ι)) :
    (ops.filter (!·.isPrint)).foldl record values = ops.foldl record values := by
  induction ops generalizing values with
  | nil => rfl
  | cons op ops ih => cases op <;> exact ih _

end Operation

open Operation

/-- Hints are made of some values each; then values and other hints are added to them and they are
printed, in any order. Whatever came before, a print shows the values that were added so far, each
once and in order of first addition, with `None` at the end. So it shows the same as if nothing had
been printed before. -/
theorem print_shows_added {ι : Type} [DecidableEq ι] (values : ι → List String)
    (hints : ι → TypeHint) (hhints : ∀ i, ofList? (values i) = some (hints i))
    (ops : List (Operation ι)) (i : ι) :
    ((print i).apply (run hints ops)).1 = some (printed (ops.foldl record values i)) ∧
      ((print i).apply (run hints ops)).1 =
        ((print i).apply (run hints (ops.filter (!·.isPrint)))).1 := by
  have hshown : ∀ ops, ((print i).apply (run hints ops)).1 =
      some (printed (ops.foldl record values i)) := by
    intro ops
    exact congrArg some (holds_run (fun i => holds_of_ofList? (hhints i)) ops i).text
  refine ⟨hshown ops, ?_⟩
  rw [hshown, hshown, record_filter]

/-- One hint is printed before it is added to another one, which is printed twice. -/
theorem print_shows_added_shared :
    let hints (i : Bool) : TypeHint := ⟨.ofList (if i then ["None", "int"] else ["str"])⟩
    ((print false).apply (run hints [.print true, .addHint false true, .print false,
      .add false "float", .add false "str"])).1 = some "str | int | float | None" := by
  intro hints
  exact (print_shows_added (fun i => if i then ["None", "int"] else ["str"]) hints
    (by rintro (_ | _) <;> rfl) _ false).1

end BindingStubs.TypeHint
