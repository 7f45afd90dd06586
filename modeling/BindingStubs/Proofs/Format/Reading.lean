import BindingStubs.Format.Symbol
import Mathlib.Data.List.Basic

set_option autoImplicit false

/-! # Reading written formats -/

namespace BindingStubs.Format

open List

def Symbol.text : Symbol → List Char
  | .unit u => u.code.toList
  | .groupStart => ['(']
  | .groupEnd => [')']
  | .optional => ['|']
  | .keywordOnly => ['$']
  | .unknown => []

def Symbol.IsKnown : Symbol → Prop
  | .unit u => u ∈ argumentUnits
  | .unknown => False
  | _ => True

/-- A format that is over, though text may follow. -/
def IsEnding (cs : List Char) : Prop := ∀ c ∈ cs.head?, isFormatEnd c = true

def extensionMarks : List Char := ['*', '#', '!', '&']

def IsBoundary (cs : List Char) : Prop := ∀ c ∈ cs.head?, c ∉ extensionMarks

theorem code_length_cases :
    ∀ u ∈ argumentUnits, u.code.toList.length = 1 ∨ u.code.toList.length = 2 ∨
      u.code.toList.length = 3 := by
  decide +kernel

theorem unitNamed?_code : ∀ u ∈ argumentUnits, unitNamed? u.code.toList = some u := by
  decide +kernel

theorem eq_or_extended : ∀ u ∈ argumentUnits, ∀ v ∈ argumentUnits,
    u.code.toList <+: v.code.toList →
      u = v ∨ (v.code.toList.drop u.code.toList.length).head?.any (· ∈ extensionMarks) = true := by
  decide +kernel

variable {u : ArgumentUnit} {c : Char}

theorem head_code (known : u ∈ argumentUnits) (first : c ∈ u.code.toList.head?) :
    c ∉ extensionMarks ∧ isFormatEnd c = false ∧ markOf c = .unknown := by
  have table : ∀ v ∈ argumentUnits, v.code.toList.head?.all (fun d =>
      d ∉ extensionMarks ∧ isFormatEnd d = false ∧ markOf d = .unknown) = true := by
    decide +kernel
  exact of_decide_eq_true ((Option.all_eq_true _ _).mp (table u known) c first)

theorem unitNamed?_eq_some {cs : List Char} (h : unitNamed? cs = some u) :
    u ∈ argumentUnits ∧ u.code.toList = cs := by
  have named := find?_some h
  exact ⟨mem_of_find?_eq_some h, eq_of_beq named⟩

variable {rest : List Char}

theorem eq_of_unitNamed?_take {u v : ArgumentUnit} (known : u ∈ argumentUnits)
    (boundary : IsBoundary rest) {n : Nat} (covers : u.code.toList.length ≤ n)
    (named : unitNamed? ((u.code.toList ++ rest).take n) = some v) : v = u := by
  obtain ⟨vknown, vcode⟩ := unitNamed?_eq_some named
  rw [take_append, take_of_length_le covers] at vcode
  rcases eq_or_extended u known v vknown ⟨_, vcode.symm⟩ with same | extended
  · exact same.symm
  · -- the mark would be the first character after the unit
    obtain ⟨c, hc, mark⟩ := (Option.any_eq_true _ _).mp extended
    rw [vcode, drop_left] at hc
    have first : c ∈ rest.head? := by
      rw [head?_take] at hc
      split at hc
      · cases hc
      · exact hc
    exact absurd (of_decide_eq_true mark) (boundary c first)

theorem unitNamed?_take (known : u ∈ argumentUnits) (boundary : IsBoundary rest) {n : Nat}
    (covers : u.code.toList.length ≤ n) :
    unitNamed? ((u.code.toList ++ rest).take n) = none ∨
      unitNamed? ((u.code.toList ++ rest).take n) = some u := by
  cases named : unitNamed? ((u.code.toList ++ rest).take n) with
  | none => exact Or.inl rfl
  | some v => exact Or.inr (congrArg some (eq_of_unitNamed?_take known boundary covers named))

theorem argumentUnit?_code_append (known : u ∈ argumentUnits) (boundary : IsBoundary rest) :
    argumentUnit? (u.code.toList ++ rest) = some u := by
  have whole : unitNamed? ((u.code.toList ++ rest).take u.code.toList.length) = some u := by
    rw [take_left]
    exact unitNamed?_code u known
  rw [argumentUnit?]
  rcases code_length_cases u known with length | length | length
  · rw [length] at whole
    rcases unitNamed?_take known boundary (show _ ≤ 3 by omega) with three | three <;>
      rcases unitNamed?_take known boundary (show _ ≤ 2 by omega) with two | two <;>
      simp [three, two, whole]
  · rw [length] at whole
    rcases unitNamed?_take known boundary (show _ ≤ 3 by omega) with three | three <;>
      simp [three, whole]
  · rw [length] at whole
    simp [whole]

theorem unitNamed?_of_not_head (h : ∀ u ∈ argumentUnits, c ∉ u.code.toList.head?) (cs : List Char) :
    unitNamed? (c :: cs) = none := by
  rw [unitNamed?, find?_eq_none]
  intro u hu same
  refine h u hu ?_
  rw [eq_of_beq same]
  exact rfl

theorem argumentUnit?_of_not_head (h : ∀ u ∈ argumentUnits, c ∉ u.code.toList.head?)
    (cs : List Char) : argumentUnit? (c :: cs) = none := by
  simp [argumentUnit?, unitNamed?_of_not_head h]

theorem argumentUnit?_mark (mark : markOf c ≠ .unknown) (cs : List Char) :
    argumentUnit? (c :: cs) = none :=
  argumentUnit?_of_not_head (fun _ hu hc => mark (head_code hu hc).2.2) cs

theorem argumentUnit?_end (ends : isFormatEnd c = true) (cs : List Char) :
    argumentUnit? (c :: cs) = none := by
  refine argumentUnit?_of_not_head (fun _ hu hc => ?_) cs
  rw [(head_code hu hc).2.1] at ends
  cases ends

theorem symbolsFrom_skip (cs rest : List Char) :
    symbolsFrom cs.length (cs ++ rest) = symbolsFrom 0 rest := by
  induction cs with
  | nil => rfl
  | cons c cs ih => exact ih

theorem symbolsFrom_unit (known : u ∈ argumentUnits) (boundary : IsBoundary rest) :
    symbolsFrom 0 (u.code.toList ++ rest) =
      (.unit u, u.code.toList ++ rest) :: symbolsFrom 0 rest := by
  have longest := argumentUnit?_code_append known boundary
  have size : u.code.length = u.code.toList.length := String.length_toList.symm
  have filled := code_length_cases u known
  cases code : u.code.toList with
  | nil => simp [code] at filled
  | cons c cs =>
    rw [code, cons_append] at longest
    rw [code, length_cons] at size
    rw [cons_append, symbolsFrom, longest]
    dsimp only
    rw [size, Nat.add_sub_cancel, symbolsFrom_skip]

theorem symbolsFrom_mark (mark : markOf c ≠ .unknown) (goesOn : isFormatEnd c = false)
    (rest : List Char) :
    symbolsFrom 0 (c :: rest) = (markOf c, c :: rest) :: symbolsFrom 0 rest := by
  rw [symbolsFrom, argumentUnit?_mark mark, goesOn]
  rfl

theorem symbolsFrom_ending {cs : List Char} (ending : IsEnding cs) : symbolsFrom 0 cs = [] := by
  cases cs with
  | nil => rfl
  | cons c cs =>
    have ends : isFormatEnd c = true := ending c rfl
    rw [symbolsFrom, argumentUnit?_end ends, ends]
    rfl

theorem symbolsFrom_text {x : Symbol} (known : x.IsKnown) (boundary : IsBoundary rest) :
    symbolsFrom 0 (x.text ++ rest) = (x, x.text ++ rest) :: symbolsFrom 0 rest := by
  cases x with
  | unit u => exact symbolsFrom_unit known boundary
  | groupStart => exact symbolsFrom_mark (by decide) (by decide) rest
  | groupEnd => exact symbolsFrom_mark (by decide) (by decide) rest
  | optional => exact symbolsFrom_mark (by decide) (by decide) rest
  | keywordOnly => exact symbolsFrom_mark (by decide) (by decide) rest
  | unknown => exact known.elim

theorem IsEnding.isBoundary {cs : List Char} (ending : IsEnding cs) : IsBoundary cs := by
  intro c hc mark
  have goesOn : extensionMarks.any isFormatEnd = false := by decide
  exact List.any_eq_false.mp goesOn c mark (ending c hc)

theorem isBoundary_text_append {x : Symbol} (known : x.IsKnown) (rest : List Char) :
    IsBoundary (x.text ++ rest) := by
  cases x with
  | unit u =>
    have filled := code_length_cases u known
    intro c hc
    refine (head_code known ?_).1
    cases code : u.code.toList with
    | nil => simp [code] at filled
    | cons d cs =>
      rw [Symbol.text, code] at hc
      exact hc
  | unknown => exact known.elim
  | _ =>
    rintro c ⟨⟩
    decide

theorem isBoundary_texts {xs : List Symbol} (known : ∀ x ∈ xs, x.IsKnown) {ending : List Char}
    (ends : IsEnding ending) : IsBoundary (xs.flatMap Symbol.text ++ ending) := by
  cases xs with
  | nil => exact ends.isBoundary
  | cons x xs =>
    rw [flatMap_cons, append_assoc]
    exact isBoundary_text_append (known x mem_cons_self) _

theorem map_symbolsFrom_texts {xs : List Symbol} (known : ∀ x ∈ xs, x.IsKnown)
    {ending : List Char} (ends : IsEnding ending) :
    (symbolsFrom 0 (xs.flatMap Symbol.text ++ ending)).map Prod.fst = xs := by
  induction xs with
  | nil => rw [flatMap_nil, nil_append, symbolsFrom_ending ends, map_nil]
  | cons x xs ih =>
    obtain ⟨hx, hxs⟩ := forall_mem_cons.mp known
    rw [flatMap_cons, append_assoc, symbolsFrom_text hx (isBoundary_texts hxs ends),
      map_cons, ih hxs]

end BindingStubs.Format
