import BindingStubs.Proofs.Format.BuildReading

set_option autoImplicit false

/-! # Written values -/

namespace BindingStubs.Format.Build

open List

mutual

def Built.parts : Built → List Part
  | .nothing => []
  | .unit u => [.unit u]
  | .tuple items => [.group .round ([Part.comma].intercalate (itemParts items))]
  | .list items => [.group .square ([Part.comma].intercalate (itemParts items))]
  | .dict entries => [.group .curly ([Part.comma].intercalate (entryParts entries))]

def itemParts : List Built → List (List Part)
  | [] => []
  | v :: vs => v.parts :: itemParts vs

def entryParts : List (Built × Built) → List (List Part)
  | [] => []
  | (key, value) :: entries => (key.parts ++ .colon :: value.parts) :: entryParts entries

end

/-- A value that can be written so that it is read back. A tuple of just a tuple would lose its
outer brackets, and a dictionary in a key its first colon. -/
inductive IsTree : Built → Prop
  | unit (u : FormatUnit) : IsTree (.unit u)
  | tuple {items : List Built} (items_isTree : ∀ v ∈ items, IsTree v)
      (not_nested : ∀ inner, items ≠ [.tuple inner]) : IsTree (.tuple items)
  | list {items : List Built} (nonempty : items ≠ []) (items_isTree : ∀ v ∈ items, IsTree v) :
      IsTree (.list items)
  | dict {entries : List (Built × Built)} (nonempty : entries ≠ [])
      (keys_isTree : ∀ entry ∈ entries, IsTree entry.1)
      (values_isTree : ∀ entry ∈ entries, IsTree entry.2)
      (keys_plain : ∀ entry ∈ entries, entry.1.hasDict = false) : IsTree (.dict entries)

/-- A set that lists its members as they came in gives alternatives that are not ascending. -/
theorem list_group_as_given :
    buildType .asGiven "[s#,i]" = .ok "list[str | int]" ∧
      buildType (.sortedBy Text.precedes) "[s#,i]" = .ok "list[int | str]" := by
  have hsorted : ["str", "int"].mergeSort Text.precedes = ["int", "str"] := by
    have hlater : Text.precedes "str" "int" = false := by decide
    simp [mergeSort, hlater]
  refine ⟨rfl, ?_⟩
  exact congrArg (fun types => Except.ok ("list[" ++ " | ".intercalate types ++ "]")) hsorted

end BindingStubs.Format.Build
