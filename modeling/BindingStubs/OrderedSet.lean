set_option autoImplicit false

/-!
# Insertion-ordered sets

A set that remembers the order in which its members first came in.
-/

namespace BindingStubs

structure OrderedSet (α : Type) [DecidableEq α] where
  toList : List α
  nodup : toList.Nodup

abbrev NameSet := OrderedSet String

namespace OrderedSet

variable {α : Type} [DecidableEq α]

def empty : OrderedSet α := ⟨[], List.nodup_nil⟩

instance : Inhabited (OrderedSet α) := ⟨empty⟩

def insert (s : OrderedSet α) (a : α) : OrderedSet α :=
  if h : a ∈ s.toList then s
  else ⟨s.toList ++ [a], by
    rw [List.nodup_append]
    refine ⟨s.nodup, by simp, ?_⟩
    intro x hx y hy
    rw [List.mem_singleton.1 hy]
    exact fun e => h (e ▸ hx)⟩

def insertAll (s : OrderedSet α) (items : List α) : OrderedSet α := items.foldl insert s

def ofList (items : List α) : OrderedSet α := insertAll empty items

def contains (s : OrderedSet α) (a : α) : Bool := s.toList.contains a

def erase (s : OrderedSet α) (a : α) : OrderedSet α := ⟨s.toList.erase a, s.nodup.erase a⟩

def union (s t : OrderedSet α) : OrderedSet α := insertAll s t.toList

def size (s : OrderedSet α) : Nat := s.toList.length

def isEmpty (s : OrderedSet α) : Bool := s.toList.isEmpty

def first? (s : OrderedSet α) : Option α := s.toList.head?

theorem toList_insert (s : OrderedSet α) (a : α) :
    (s.insert a).toList = if a ∈ s.toList then s.toList else s.toList ++ [a] := by
  unfold insert
  split <;> rfl

theorem mem_insert (s : OrderedSet α) (a b : α) :
    b ∈ (s.insert a).toList ↔ b ∈ s.toList ∨ b = a := by
  unfold insert
  split
  case isTrue h =>
    constructor
    · exact Or.inl
    · rintro (hb | rfl)
      · exact hb
      · exact h
  case isFalse => simp

theorem toList_empty : (empty : OrderedSet α).toList = [] := rfl

end OrderedSet

/-- An order of listing, for collections whose own order is not known. -/
structure Listing (α : Type) where
  list : List α → List α
  perm : ∀ items, (list items).Perm items

namespace Listing

variable {α : Type}

def asGiven : Listing α := ⟨id, List.Perm.refl⟩

def sortedBy (precedes : α → α → Bool) : Listing α :=
  ⟨fun items => items.mergeSort precedes, fun items => List.mergeSort_perm items precedes⟩

end Listing

end BindingStubs
