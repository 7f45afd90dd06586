import BindingStubs.Source.Call
import Mathlib.Data.List.Basic

set_option autoImplicit false

/-! # Cutting undoes joining -/

namespace BindingStubs.Source

open List

/-- What a scan is inside of after one more character; `none` if that closes a bracket that was
never opened. -/
def Inside.next? (openings closings : List Char) (s : Inside) (c : Char) : Option Inside :=
  if s.escaped then some { s with escaped := false }
  else if c = '\\' then some { s with escaped := true }
  else if c = '"' then some { s with quoted := !s.quoted }
  else if s.quoted then some s
  else if c ∈ openings then some { s with depth := s.depth + 1 }
  else if c ∈ closings then
    match s.depth with
    | 0 => none
    | depth + 1 => some { s with depth := depth }
  else some s

def Inside.scan? (openings closings : List Char) : Inside → List Char → Option Inside
  | s, [] => some s
  | s, c :: rest => (s.next? openings closings c).bind fun t => t.scan? openings closings rest

structure IsPlain (openings closings : List Char) (c : Char) : Prop where
  ne_escape : c ≠ '\\'
  ne_quote : c ≠ '"'
  not_opening : c ∉ openings
  not_closing : c ∉ closings

instance (openings closings : List Char) (c : Char) : Decidable (IsPlain openings closings c) :=
  decidable_of_iff (c ≠ '\\' ∧ c ≠ '"' ∧ c ∉ openings ∧ c ∉ closings)
    ⟨fun ⟨h₁, h₂, h₃, h₄⟩ => ⟨h₁, h₂, h₃, h₄⟩, fun ⟨h₁, h₂, h₃, h₄⟩ => ⟨h₁, h₂, h₃, h₄⟩⟩

def Uncut (openings closings : List Char) (separator : Char) (s : Inside) (cs : List Char) : Prop :=
  ∀ i, (h : i < cs.length) → cs[i] = separator →
    s.scan? openings closings (cs.take i) ≠ some {}

instance (openings closings : List Char) (separator : Char) (s : Inside) (cs : List Char) :
    Decidable (Uncut openings closings separator s cs) :=
  inferInstanceAs (Decidable (∀ i, (h : i < cs.length) → _))

/-- A piece that leaves a scan where it was and does not cut itself. -/
structure SelfContained (openings closings : List Char) (separator : Char) (piece : List Char) :
    Prop where
  closed : Inside.scan? openings closings {} piece = some {}
  uncut : Uncut openings closings separator {} piece

instance (openings closings : List Char) (separator : Char) (piece : List Char) :
    Decidable (SelfContained openings closings separator piece) :=
  decidable_of_iff (Inside.scan? openings closings {} piece = some {} ∧
      Uncut openings closings separator {} piece)
    ⟨fun ⟨h₁, h₂⟩ => ⟨h₁, h₂⟩, fun ⟨h₁, h₂⟩ => ⟨h₁, h₂⟩⟩

section
variable {openings closings : List Char} {separator : Char}

theorem Inside.next?_unmatched {c : Char} (hescape : c ≠ '\\') (hquote : c ≠ '"')
    (hopening : c ∉ openings) (hclosing : c ∈ closings) :
    Inside.next? openings closings {} c = none := by
  simp [Inside.next?, hescape, hquote, hopening, hclosing]

section
variable (hsep : IsPlain openings closings separator)
include hsep

theorem piecesLoop_cons (s : Inside)
    (piece : List Char) (c : Char) (rest : List Char) :
    piecesLoop openings closings (some separator) s piece (c :: rest) =
      if c = separator ∧ s = {} then
        piece.reverse :: piecesLoop openings closings (some separator) {} [] rest
      else match s.next? openings closings c with
        | none => [piece.reverse]
        | some t => piecesLoop openings closings (some separator) t (c :: piece) rest := by
  obtain ⟨depth, quoted, escaped⟩ := s
  by_cases hcut : c = separator ∧ (⟨depth, quoted, escaped⟩ : Inside) = {}
  · obtain ⟨rfl, hs⟩ := hcut
    injection hs with hdepth hquoted hescaped
    subst hdepth hquoted hescaped
    simp [piecesLoop, hsep.ne_escape, hsep.ne_quote, hsep.not_opening, hsep.not_closing]
  · rw [if_neg hcut, piecesLoop]
    cases escaped
    · cases quoted
      · by_cases hescape : c = '\\'
        · simp [Inside.next?, hescape]
        by_cases hquote : c = '"'
        · simp [Inside.next?, hquote]
        by_cases hopening : c ∈ openings
        · simp [Inside.next?, hescape, hquote, hopening]
        by_cases hclosing : c ∈ closings
        · cases depth <;> simp [Inside.next?, hescape, hquote, hopening, hclosing]
        · have hplain : ¬ (separator = c ∧ depth = 0) := by
            rintro ⟨rfl, rfl⟩
            exact hcut ⟨rfl, rfl⟩
          simp [Inside.next?, hescape, hquote, hopening, hclosing, hplain]
      · by_cases hescape : c = '\\'
        · simp [Inside.next?, hescape]
        by_cases hquote : c = '"' <;> simp [Inside.next?, hescape, hquote]
    · simp [Inside.next?]

theorem piecesLoop_append {s t : Inside}
    {cs : List Char} (hscan : s.scan? openings closings cs = some t)
    (huncut : Uncut openings closings separator s cs) (piece rest : List Char) :
    piecesLoop openings closings (some separator) s piece (cs ++ rest) =
      piecesLoop openings closings (some separator) t (cs.reverse ++ piece) rest := by
  induction cs generalizing s piece with
  | nil =>
    rw [Inside.scan?, Option.some.injEq] at hscan
    rw [hscan]
    rfl
  | cons c cs ih =>
    rw [Inside.scan?, Option.bind_eq_some_iff] at hscan
    obtain ⟨u, hu, hscan⟩ := hscan
    have hstay : ¬ (c = separator ∧ s = {}) := by
      rintro ⟨hc, hs⟩
      exact huncut 0 (by simp) hc (by rw [hs]; rfl)
    have htail : Uncut openings closings separator u cs := by
      intro i hi hc hcut
      refine huncut (i + 1) (by simpa using hi) (by simpa using hc) ?_
      rw [take_succ_cons, Inside.scan?, hu]
      exact hcut
    rw [cons_append, piecesLoop_cons hsep, if_neg hstay, hu]
    rw [show (c :: cs).reverse ++ piece = cs.reverse ++ c :: piece by simp]
    exact ih hscan htail (c :: piece)

theorem piecesLoop_separator
    (piece rest : List Char) :
    piecesLoop openings closings (some separator) {} piece (separator :: rest) =
      piece.reverse :: piecesLoop openings closings (some separator) {} [] rest := by
  rw [piecesLoop_cons hsep, if_pos ⟨rfl, rfl⟩]

theorem piecesLoop_unmatched {c : Char}
    (hescape : c ≠ '\\') (hquote : c ≠ '"') (hopening : c ∉ openings) (hclosing : c ∈ closings)
    (piece rest : List Char) :
    piecesLoop openings closings (some separator) {} piece (c :: rest) = [piece.reverse] := by
  have hne : ¬ (c = separator ∧ ({} : Inside) = {}) := by
    rintro ⟨rfl, _⟩
    exact hsep.not_closing hclosing
  rw [piecesLoop_cons hsep, if_neg hne,
    Inside.next?_unmatched hescape hquote hopening hclosing]

end

theorem Inside.scan?_append (s : Inside) (cs more : List Char) :
    s.scan? openings closings (cs ++ more) =
      (s.scan? openings closings cs).bind fun t => t.scan? openings closings more := by
  induction cs generalizing s with
  | nil => rfl
  | cons c cs ih =>
    rw [cons_append, Inside.scan?, Inside.scan?, Option.bind_assoc]
    congr 1
    funext t
    exact ih t

theorem Inside.scan?_of_isPlain {cs : List Char} (h : ∀ c ∈ cs, IsPlain openings closings c) :
    Inside.scan? openings closings {} cs = some {} := by
  induction cs with
  | nil => rfl
  | cons c cs ih =>
    have hc := h c mem_cons_self
    have hnext : Inside.next? openings closings {} c = some {} := by
      simp [Inside.next?, hc.ne_escape, hc.ne_quote, hc.not_opening, hc.not_closing]
    rw [Inside.scan?, hnext, Option.bind_some]
    exact ih fun d hd => h d (mem_cons_of_mem c hd)

theorem uncut_of_notMem {cs : List Char} (h : separator ∉ cs) (s : Inside) :
    Uncut openings closings separator s cs := by
  intro i hi hc
  exact absurd (hc ▸ getElem_mem hi) h

theorem piecesLoop_none_cons (s : Inside) (piece : List Char) (c : Char) (rest : List Char) :
    piecesLoop openings closings none s piece (c :: rest) =
      match s.next? openings closings c with
      | none => [piece.reverse]
      | some t => piecesLoop openings closings none t (c :: piece) rest := by
  obtain ⟨depth, quoted, escaped⟩ := s
  have hsep : (none == some c) = false := rfl
  rw [piecesLoop, Inside.next?]
  simp only [hsep, Bool.false_and, if_neg Bool.false_ne_true, beq_iff_eq, contains_iff_mem]
  split_ifs <;> cases depth <;> rfl

theorem piecesLoop_none_append {s t : Inside} {cs : List Char}
    (hscan : s.scan? openings closings cs = some t) (piece rest : List Char) :
    piecesLoop openings closings none s piece (cs ++ rest) =
      piecesLoop openings closings none t (cs.reverse ++ piece) rest := by
  induction cs generalizing s piece with
  | nil =>
    rw [Inside.scan?, Option.some.injEq] at hscan
    rw [hscan]
    rfl
  | cons c cs ih =>
    rw [Inside.scan?, Option.bind_eq_some_iff] at hscan
    obtain ⟨u, hu, hscan⟩ := hscan
    rw [cons_append, piecesLoop_none_cons, hu]
    rw [show (c :: cs).reverse ++ piece = cs.reverse ++ c :: piece by simp]
    exact ih hscan (c :: piece)

theorem piecesLoop_selfContained (hsep : IsPlain openings closings separator) {piece : List Char}
    (hpiece : SelfContained openings closings separator piece) (rest : List Char) :
    piecesLoop openings closings (some separator) {} [] (piece ++ rest) =
      piecesLoop openings closings (some separator) {} piece.reverse rest := by
  rw [piecesLoop_append hsep hpiece.closed hpiece.uncut, append_nil]

theorem piecesLoop_intercalate (hsep : IsPlain openings closings separator)
    {pieces : List (List Char)} (hne : pieces ≠ [])
    (hpieces : ∀ piece ∈ pieces, SelfContained openings closings separator piece)
    {rest : List Char} (hrest : ∀ piece,
      piecesLoop openings closings (some separator) {} piece rest = [piece.reverse]) :
    piecesLoop openings closings (some separator) {} []
      ([separator].intercalate pieces ++ rest) = pieces := by
  induction pieces with
  | nil => exact absurd rfl hne
  | cons piece others ih =>
    have hpiece := hpieces piece mem_cons_self
    cases others with
    | nil =>
      rw [intercalate_singleton, piecesLoop_selfContained hsep hpiece, hrest,
        reverse_reverse]
    | cons second others =>
      rw [intercalate_cons_cons, append_assoc, append_assoc, singleton_append,
        piecesLoop_selfContained hsep hpiece, piecesLoop_separator hsep, reverse_reverse]
      rw [ih (by simp) fun p hp => hpieces p (mem_cons_of_mem _ hp)]

end

theorem indexFrom_singleton (c : Char) (base : Nat) (cs : List Char) :
    (Chars.indexFrom [c] base cs).isSome = cs.contains c := by
  induction cs generalizing base with
  | nil => rfl
  | cons d cs ih =>
    rw [Chars.indexFrom, contains_cons]
    by_cases h : c = d
    · simp [h]
    · rw [show (c == d) = false by simpa using h, Bool.false_or, ← ih (base + 1)]
      simp [h]

theorem cutPieces_eq {openings closings : String} {separator : Char}
    (hsep : IsPlain openings.toList closings.toList separator) (text : String) (start : Nat) :
    cutPieces text start (String.singleton separator) openings closings =
      .ok ((piecesLoop openings.toList closings.toList (some separator) {} []
        (text.toList.drop start)).map String.ofList) := by
  have hfree :
      Text.contains ("\\\"" ++ openings ++ closings) (String.singleton separator) = false := by
    rw [Text.contains, Chars.contains, Chars.index?, String.toList_singleton, indexFrom_singleton]
    simp [hsep.ne_escape, hsep.ne_quote, hsep.not_opening, hsep.not_closing]
  simp only [cutPieces, hfree, Bool.false_eq_true, ↓reduceIte, String.toList_singleton,
    pieces]
  rfl

/-- Cutting gives back the pieces that were joined, also if an unmatched closing bracket and any
text follow. A quote or an escape among the closing brackets keeps its own meaning. -/
theorem cutPieces_join (openings closings : String) (separator : Char) (before : String)
    (joined : List String) (hdisjoint : ∀ c ∈ openings.toList, c ∉ closings.toList)
    (hsep : IsPlain openings.toList closings.toList separator) (hne : joined ≠ [])
    (hjoined : ∀ piece ∈ joined,
      SelfContained openings.toList closings.toList separator piece.toList) :
    cutPieces (before ++ Text.join (String.singleton separator) joined) before.length
        (String.singleton separator) openings closings = .ok joined ∧
      ∀ c ∈ closings.toList, c ≠ '\\' → c ≠ '"' → ∀ after : String,
        cutPieces (before ++ Text.join (String.singleton separator) joined ++
          String.singleton c ++ after) before.length (String.singleton separator)
          openings closings = .ok joined := by
  -- Both halves are one fact about what may follow the joined pieces.
  have hfound : ∀ rest : String, (∀ piece, piecesLoop openings.toList closings.toList
      (some separator) {} piece rest.toList = [piece.reverse]) →
      cutPieces (before ++ Text.join (String.singleton separator) joined ++ rest) before.length
        (String.singleton separator) openings closings = .ok joined := by
    intro rest hrest
    have hpieces : ∀ piece ∈ joined.map String.toList,
        SelfContained openings.toList closings.toList separator piece := by
      intro piece hpiece
      obtain ⟨p, hp, rfl⟩ := mem_map.1 hpiece
      exact hjoined p hp
    rw [cutPieces_eq hsep, Text.join, String.toList_append, String.toList_append,
      String.toList_intercalate, String.toList_singleton, append_assoc,
      ← String.length_toList, drop_left,
      piecesLoop_intercalate hsep (by simpa using hne) hpieces hrest]
    simp [Function.comp_def]
  constructor
  · simpa using hfound "" fun piece => rfl
  · intro c hc hescape hquote after
    rw [String.append_assoc]
    refine hfound (String.singleton c ++ after) fun piece => ?_
    rw [String.toList_append, String.toList_singleton, singleton_append]
    exact piecesLoop_unmatched hsep hescape hquote (fun ho => hdisjoint c ho hc) hc piece _

/-- Arguments of a call: an empty one, a nested call, and brackets and commas in a string. -/
theorem cutPieces_join_arguments :
    cutPieces "f(a,,g(x,[y]),\",)\\\"\"" 2 "," "([" ")]" = .ok ["a", "", "g(x,[y])", "\",)\\\"\""] ∧
      cutPieces "f(a,,g(x,[y]),\",)\\\"\"), h" 2 "," "([" ")]" =
        .ok ["a", "", "g(x,[y])", "\",)\\\"\""] := by
  have h := cutPieces_join "([" ")]" ',' "f(" ["a", "", "g(x,[y])", "\",)\\\"\""]
    (by simp) (by decide) (by decide) (by decide)
  exact ⟨h.1, h.2 ')' (by decide) (by decide) (by decide) ", h"⟩

/-- A quote that is listed as a closing bracket opens a string instead of ending the last piece. -/
theorem cutPieces_quote_not_bracket :
    (∀ c ∈ "(".toList, c ∉ "\"".toList) ∧ IsPlain "(".toList "\"".toList ',' ∧
      SelfContained "(".toList "\"".toList ',' "a".toList ∧ '"' ∈ "\"".toList ∧
      cutPieces ("" ++ Text.join (String.singleton ',') ["a"] ++ String.singleton '"' ++ "b")
        "".length (String.singleton ',') "(" "\"" = .ok ["a\"b"] ∧
      (["a\"b"] : List String) ≠ ["a"] := by
  exact ⟨by simp, by decide, by decide, by decide, rfl, by decide⟩

end BindingStubs.Source
