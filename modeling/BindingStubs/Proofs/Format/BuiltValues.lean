import BindingStubs.Proofs.Format.BuildParts
import BindingStubs.Proofs.Text.Order
import Mathlib.Data.Finset.Sort

set_option autoImplicit false

/-! # Values that formats build -/

namespace BindingStubs.Format.Build

open List

inductive Built where
  | nothing
  | unit (u : FormatUnit)
  | tuple (items : List Built)
  | list (items : List Built)
  | dict (entries : List (Built × Built))

section

variable (sets : Listing String)

mutual

def Built.type : Built → String
  | .nothing => "None"
  | .unit u => u.type
  | .tuple [] => "tuple[()]"
  | .tuple (item :: items) => "tuple[" ++ ", ".intercalate (item.type :: typesOf items) ++ "]"
  | .list items => "list[" ++ alternatives sets (typesOf items) ++ "]"
  | .dict entries =>
    "dict[" ++ alternatives sets (keyTypes entries) ++ ", " ++
      alternatives sets (valueTypes entries) ++ "]"

def typesOf : List Built → List String
  | [] => []
  | v :: vs => v.type :: typesOf vs

def keyTypes : List (Built × Built) → List String
  | [] => []
  | (key, _) :: entries => key.type :: keyTypes entries

def valueTypes : List (Built × Built) → List String
  | [] => []
  | (_, value) :: entries => value.type :: valueTypes entries

end

theorem typesOf_eq (vs : List Built) : typesOf sets vs = vs.map (Built.type sets) := by
  induction vs with
  | nil => rfl
  | cons v vs ih => rw [typesOf, ih, map_cons]

theorem keyTypes_eq (entries : List (Built × Built)) :
    keyTypes sets entries = entries.map fun entry => entry.1.type sets := by
  induction entries with
  | nil => rfl
  | cons entry entries ih => rw [keyTypes, ih, map_cons]

theorem valueTypes_eq (entries : List (Built × Built)) :
    valueTypes sets entries = entries.map fun entry => entry.2.type sets := by
  induction entries with
  | nil => rfl
  | cons entry entries ih => rw [valueTypes, ih, map_cons]

theorem type_tuple {items : List Built} (h : items ≠ []) :
    (Built.tuple items).type sets = tupleOf (items.map (Built.type sets)) := by
  cases items with
  | nil => exact absurd rfl h
  | cons item items => rw [Built.type, typesOf_eq, ← map_cons]; rfl

def wholeType : List String → String
  | [] => "None"
  | [type] => type
  | types => "tuple[" ++ ", ".intercalate types ++ "]"

def gathered : List Built → Built
  | [] => .nothing
  | [v] => v
  | vs => .tuple vs

theorem type_gathered (vs : List Built) :
    (gathered vs).type sets = wholeType (vs.map (Built.type sets)) := by
  match vs with
  | [] => rfl
  | [v] => rfl
  | v :: w :: vs => exact type_tuple sets (by simp)

def wrapped : Built → Built
  | .tuple items => .tuple items
  | v => .tuple [v]

theorem startsWith_tuple (rest : String) : Text.startsWith ("tuple[" ++ rest) "tuple[" = true := by
  simp [Text.startsWith, Chars.startsWith, String.toList_append]

theorem singleTuple_type (v : Built) : singleTuple (v.type sets) = (wrapped v).type sets := by
  have hsingle : (Built.tuple [v]).type sets = "tuple[" ++ v.type sets ++ "]" := by
    rw [type_tuple sets (by simp), map_singleton, tupleOf, Text.join,
      String.intercalate_singleton]
  have hother : Text.startsWith (v.type sets) "tuple[" = false →
      singleTuple (v.type sets) = (Built.tuple [v]).type sets := by
    intro h
    rw [singleTuple, if_neg (by simp [h]), hsingle]
  have htuple : Text.startsWith (v.type sets) "tuple[" = true →
      singleTuple (v.type sets) = v.type sets := fun h => if_pos h
  cases v with
  | nothing => exact hother (by rw [Built.type]; rfl)
  | unit u =>
    have hall : ∀ entry ∈ buildUnits, Text.startsWith entry.2 "tuple[" = false := by decide
    exact hother (hall (u.name, u.type) u.mem_buildUnits)
  | tuple items =>
    cases items with
    | nil => exact htuple (by rw [Built.type]; rfl)
    | cons item items =>
      refine htuple ?_
      rw [Built.type, String.append_assoc]
      exact startsWith_tuple _
  | list items =>
    refine hother ?_
    simp only [Built.type, Text.startsWith, String.toList_append]
    rfl
  | dict entries =>
    refine hother ?_
    simp only [Built.type, Text.startsWith, String.toList_append]
    rfl

end

mutual

def Built.hasDict : Built → Bool
  | .nothing => false
  | .unit _ => false
  | .tuple items => anyHasDict items
  | .list items => anyHasDict items
  | .dict _ => true

def anyHasDict : List Built → Bool
  | [] => false
  | v :: vs => v.hasDict || anyHasDict vs

end

theorem hasDict_gathered (vs : List Built) : (gathered vs).hasDict = anyHasDict vs := by
  match vs with
  | [] => rfl
  | [v] => rw [gathered, anyHasDict, anyHasDict, Bool.or_false]
  | v :: w :: vs => rfl

theorem hasDict_wrapped (v : Built) : (wrapped v).hasDict = v.hasDict := by
  cases v <;> simp [wrapped, Built.hasDict, anyHasDict]

/-- What a part is to the list that it stands in. A group that cannot be read has no value. -/
inductive Sign where
  | comma
  | colon
  | value (v : Option Built)

namespace Sign

def isComma : Sign → Bool
  | comma => true
  | _ => false

def isColon : Sign → Bool
  | colon => true
  | _ => false

def value? : Sign → Option Built
  | value v => v
  | _ => none

end Sign

mutual

def Part.sign (read : Bracket → List Sign → Option Built) : Part → Sign
  | .unit u => .value (some (.unit u))
  | .comma => .comma
  | .colon => .colon
  | .group b inside => .value (read b (signsOf read inside))

def signsOf (read : Bracket → List Sign → Option Built) : List Part → List Sign
  | [] => []
  | p :: parts => p.sign read :: signsOf read parts

end

theorem signsOf_eq (read : Bracket → List Sign → Option Built) (parts : List Part) :
    signsOf read parts = parts.map (Part.sign read) := by
  induction parts with
  | nil => rfl
  | cons p parts ih => rw [signsOf, ih, map_cons]

theorem isComma_sign (read : Bracket → List Sign → Option Built) (p : Part) :
    (p.sign read).isComma = p.isComma := by
  cases p <;> rfl

theorem isColon_sign (read : Bracket → List Sign → Option Built) (p : Part) :
    (p.sign read).isColon = p.isColon := by
  cases p <;> rfl

def whole (signs : List Sign) : Option Built := (signs.mapM Sign.value?).map gathered

/-- A key and its value around the first colon. The first colon of the text must be the same one, so
a key with a dictionary in it is refused. -/
def readEntry (signs : List Sign) : Option (Built × Built) :=
  match signs.dropWhile (!·.isColon) with
  | [] => none
  | _ :: after => do
    let key ← whole (signs.takeWhile (!·.isColon))
    let value ← whole after
    if key.hasDict then none else some (key, value)

def tupled : List Built → Built
  | [v] => wrapped v
  | vs => .tuple vs

theorem hasDict_tupled (vs : List Built) : (tupled vs).hasDict = anyHasDict vs := by
  match vs with
  | [] => rfl
  | [v] => rw [tupled, hasDict_wrapped, anyHasDict, anyHasDict, Bool.or_false]
  | v :: w :: vs => rfl

def Bracket.read (b : Bracket) (signs : List Sign) : Option Built :=
  let pieces := signs.splitOnP Sign.isComma
  match b with
  | .round => if signs.isEmpty then some (.tuple []) else (pieces.mapM whole).map tupled
  | .square => (pieces.mapM whole).map .list
  | .curly => (pieces.mapM readEntry).map .dict

theorem mapM_cons_eq_some {α β : Type} {f : α → Option β} {x : α} {xs : List α} {ys : List β} :
    (x :: xs).mapM f = some ys ↔
      ∃ y others, f x = some y ∧ xs.mapM f = some others ∧ ys = y :: others := by
  rw [mapM_cons]
  cases f x <;> cases xs.mapM f <;> simp [eq_comm]

theorem mapM_eq_some_iff {α β : Type} {f : α → Option β} {xs : List α} {ys : List β} :
    xs.mapM f = some ys ↔ xs.map f = ys.map some := by
  induction xs generalizing ys with
  | nil => cases ys <;> simp
  | cons x xs ih =>
    rw [mapM_cons_eq_some, map_cons]
    cases ys with
    | nil => simp
    | cons y ys => simp [ih]

theorem mapM_map_congr {α β γ : Type} {f : β → Option γ} {g : α → β} {h : α → Option γ}
    {xs : List α} (hxs : ∀ x ∈ xs, f (g x) = h x) : (xs.map g).mapM f = xs.mapM h := by
  induction xs with
  | nil => rfl
  | cons x xs ih =>
    rw [forall_mem_cons] at hxs
    rw [map_cons, mapM_cons, mapM_cons, hxs.1, ih hxs.2]

end BindingStubs.Format.Build
