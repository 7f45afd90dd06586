import BindingStubs.Proofs.Source.Pieces

set_option autoImplicit false

/-! # Joining undoes cutting -/

namespace BindingStubs.Source

open List Inside

section
variable (openings closings : List Char)

/-- A closing bracket that nothing has opened since `start`, outside of strings and escapes. Quotes
and backslashes are never brackets, even if they are listed as such. -/
def IsUnmatched (text : List Char) (start place : Nat) : Prop :=
  text[place]?.any (fun c => decide (c ∈ closings ∧ c ∉ openings ∧ c ≠ '\\' ∧ c ≠ '"')) = true ∧
    Inside.scan? openings closings {} (Chars.slice text start place) = some {}

instance (text : List Char) (start place : Nat) :
    Decidable (IsUnmatched openings closings text start place) :=
  inferInstanceAs (Decidable (_ ∧ _))

/-- The first unmatched closing bracket from `start` on, or the end of the text. -/
def cutEnd (text : List Char) (start : Nat) : Nat :=
  ((List.range' start (text.length - start)).find? fun place =>
    decide (IsUnmatched openings closings text start place)).getD text.length

/-- How many characters a scan goes through before one closes what was never opened. -/
def Inside.reach : Inside → List Char → Nat
  | _, [] => 0
  | s, c :: rest => ((s.next? openings closings c).map fun t => t.reach rest + 1).getD 0

end

section
variable {openings closings : List Char} {separator : Char}

theorem Inside.next?_eq_none_iff {s : Inside} {c : Char} :
    s.next? openings closings c = none ↔
      s = {} ∧ c ∈ closings ∧ c ∉ openings ∧ c ≠ '\\' ∧ c ≠ '"' := by
  constructor
  · intro h
    obtain ⟨depth, quoted, escaped⟩ := s
    rw [next?] at h
    split_ifs at h with hescaped hescape hquote hquoted hopening hclosing
    cases depth with
    | zero => exact ⟨by simp_all, hclosing, hopening, hescape, hquote⟩
    | succ depth => cases h
  · rintro ⟨rfl, hclosing, hopening, hescape, hquote⟩
    exact next?_unmatched hescape hquote hopening hclosing

theorem Inside.reach_of_next {s t : Inside} {c : Char} (h : s.next? openings closings c = some t)
    (cs : List Char) : s.reach openings closings (c :: cs) = t.reach openings closings cs + 1 := by
  rw [reach, h]
  rfl

theorem Inside.reach_of_none {s : Inside} {c : Char} (h : s.next? openings closings c = none)
    (cs : List Char) : s.reach openings closings (c :: cs) = 0 := by
  rw [reach, h]
  rfl

theorem Inside.reach_le (s : Inside) (cs : List Char) :
    s.reach openings closings cs ≤ cs.length := by
  induction cs generalizing s with
  | nil => exact Nat.le_refl 0
  | cons c cs ih =>
    cases h : s.next? openings closings c with
    | none => rw [s.reach_of_none h]; exact Nat.zero_le _
    | some t => rw [s.reach_of_next h]; exact Nat.succ_le_succ (ih t)

theorem Inside.reach_eq_iff {s : Inside} {cs : List Char} {k : Nat} (hk : k < cs.length) :
    s.reach openings closings cs = k ↔ ∃ t, s.scan? openings closings (cs.take k) = some t ∧
      t.next? openings closings cs[k] = none := by
  induction cs generalizing s k with
  | nil => cases hk
  | cons c cs ih =>
    cases k with
    | zero =>
      cases h : s.next? openings closings c with
      | none => simp [s.reach_of_none h, scan?, h]
      | some t => simp [s.reach_of_next h, scan?, h]
    | succ k =>
      have hk' : k < cs.length := Nat.lt_of_succ_lt_succ hk
      cases h : s.next? openings closings c with
      | none => simp [s.reach_of_none h, scan?, h]
      | some t =>
        rw [s.reach_of_next h, Nat.add_right_cancel_iff, ih hk', take_succ_cons,
          scan?, h]
        rfl

theorem isUnmatched_iff {text : List Char} {start k : Nat} (hk : start + k < text.length) :
    IsUnmatched openings closings text start (start + k) ↔
      reach openings closings {} (text.drop start) = k := by
  have hk' : k < (text.drop start).length := by rw [length_drop]; omega
  rw [reach_eq_iff hk', IsUnmatched, getElem?_eq_getElem hk, Option.any_some,
    decide_eq_true_eq, Chars.slice, drop_take, Nat.add_sub_cancel_left, getElem_drop]
  simp only [next?_eq_none_iff]
  constructor
  · exact fun ⟨hbracket, hscan⟩ => ⟨{}, hscan, rfl, hbracket⟩
  · rintro ⟨_, hscan, rfl, hbracket⟩
    exact ⟨hbracket, hscan⟩

theorem cutEnd_eq (text : List Char) {start : Nat} (hstart : start ≤ text.length) :
    cutEnd openings closings text start =
      start + reach openings closings {} (text.drop start) := by
  have hle : reach openings closings {} (text.drop start) ≤ text.length - start := by
    rw [← length_drop]
    exact reach_le {} _
  rw [cutEnd]
  cases hfound : (List.range' start (text.length - start)).find? _ with
  | some place =>
    have hmem := mem_of_find?_eq_some hfound
    rw [mem_range'_1] at hmem
    obtain ⟨k, rfl⟩ := Nat.exists_eq_add_of_le hmem.1
    have hunmatched : IsUnmatched openings closings text start (start + k) := by
      simpa using find?_some hfound
    rw [Option.getD_some, (isUnmatched_iff (by omega)).1 hunmatched]
  | none =>
    rw [Option.getD_none]
    by_contra hne
    have hlt : start + reach openings closings {} (text.drop start) < text.length := by omega
    have hnone := find?_eq_none.1 hfound
      (start + reach openings closings {} (text.drop start))
      (mem_range'_1.2 (by omega))
    exact hnone (decide_eq_true ((isUnmatched_iff hlt).2 rfl))

theorem piecesLoop_ne_nil (hsep : IsPlain openings closings separator) (s : Inside)
    (piece cs : List Char) : piecesLoop openings closings (some separator) s piece cs ≠ [] := by
  induction cs generalizing s piece with
  | nil => exact cons_ne_nil _ _
  | cons c cs ih =>
    rw [piecesLoop_cons hsep]
    split_ifs
    · exact cons_ne_nil _ _
    · cases s.next? openings closings c with
      | none => exact cons_ne_nil _ _
      | some t => exact ih t (c :: piece)

theorem Inside.next?_of_isPlain (hsep : IsPlain openings closings separator) :
    next? openings closings {} separator = some {} := by
  simp [next?, hsep.ne_escape, hsep.ne_quote, hsep.not_opening, hsep.not_closing]

theorem intercalate_piecesLoop (hsep : IsPlain openings closings separator) (s : Inside)
    (piece cs : List Char) :
    [separator].intercalate (piecesLoop openings closings (some separator) s piece cs) =
      piece.reverse ++ cs.take (s.reach openings closings cs) := by
  induction cs generalizing s piece with
  | nil => simp [piecesLoop]
  | cons c cs ih =>
    rw [piecesLoop_cons hsep]
    split_ifs with hcut
    · obtain ⟨rfl, rfl⟩ := hcut
      rw [intercalate_cons_of_ne_nil (piecesLoop_ne_nil hsep _ _ _), ih,
        reach_of_next (next?_of_isPlain hsep)]
      simp
    · cases hnext : s.next? openings closings c with
      | none => simp [s.reach_of_none hnext]
      | some t =>
        rw [s.reach_of_next hnext]
        simpa using ih t (c :: piece)

theorem uncut_concat {s : Inside} {cs : List Char} {c : Char}
    (h : Uncut openings closings separator s cs)
    (hlast : c = separator → s.scan? openings closings cs ≠ some {}) :
    Uncut openings closings separator s (cs ++ [c]) := by
  intro i hi hc
  rw [length_append, length_singleton] at hi
  by_cases hlt : i < cs.length
  · rw [getElem_append_left hlt] at hc
    rw [take_append_of_le_length (Nat.le_of_lt hlt)]
    exact h i hlt hc
  · obtain rfl : i = cs.length := by omega
    rw [take_left]
    exact hlast (by simpa using hc)

theorem selfContained_piecesLoop (hsep : IsPlain openings closings separator) {s : Inside}
    {piece : List Char} (hscan : scan? openings closings {} piece.reverse = some s)
    (huncut : Uncut openings closings separator {} piece.reverse) (cs : List Char) :
    (∀ p ∈ (piecesLoop openings closings (some separator) s piece cs).dropLast,
        SelfContained openings closings separator p) ∧
      (s.reach openings closings cs < cs.length →
        ∀ p ∈ piecesLoop openings closings (some separator) s piece cs,
          SelfContained openings closings separator p) := by
  induction cs generalizing s piece with
  | nil => simp [piecesLoop]
  | cons c cs ih =>
    rw [piecesLoop_cons hsep]
    split_ifs with hcut
    · obtain ⟨rfl, rfl⟩ := hcut
      have hfirst : SelfContained openings closings c piece.reverse := ⟨hscan, huncut⟩
      obtain ⟨hinner, hall⟩ := @ih {} [] rfl (uncut_of_notMem not_mem_nil {})
      rw [dropLast_cons_of_ne_nil (piecesLoop_ne_nil hsep _ _ _),
        reach_of_next (next?_of_isPlain hsep), length_cons]
      exact ⟨forall_mem_cons.2 ⟨hfirst, hinner⟩,
        fun hlt => forall_mem_cons.2 ⟨hfirst, hall (Nat.lt_of_succ_lt_succ hlt)⟩⟩
    · cases hnext : s.next? openings closings c with
      | none =>
        obtain ⟨rfl, -⟩ := next?_eq_none_iff.1 hnext
        have hlast : SelfContained openings closings separator piece.reverse := ⟨hscan, huncut⟩
        simpa using fun _ => hlast
      | some t =>
        have hscan' : scan? openings closings {} (c :: piece).reverse = some t := by
          rw [reverse_cons, scan?_append, hscan, Option.bind_some, scan?, hnext]
          rfl
        have huncut' : Uncut openings closings separator {} (c :: piece).reverse := by
          rw [reverse_cons]
          refine uncut_concat huncut fun hc hclosed => hcut ⟨hc, ?_⟩
          exact Option.some.inj (hscan.symm.trans hclosed)
        rw [s.reach_of_next hnext, length_cons, Nat.add_lt_add_iff_right]
        exact ih hscan' huncut'

end

/-- Nothing is lost when a text is cut: the joined pieces are the text from `start` to the first
unmatched closing bracket, or to its end. All pieces but the last are self-contained, and so is the
last one if cutting ends at such a bracket. -/
theorem join_cutPieces (openings closings : String) (separator : Char) (text : String)
    (start : Nat) (hsep : IsPlain openings.toList closings.toList separator)
    (hstart : start ≤ text.length) :
    ∃ cut, cutPieces text start (String.singleton separator) openings closings = .ok cut ∧
      Text.join (String.singleton separator) cut =
        String.ofList (Chars.slice text.toList start
          (cutEnd openings.toList closings.toList text.toList start)) ∧
      (∀ piece ∈ cut.dropLast,
        SelfContained openings.toList closings.toList separator piece.toList) ∧
      (IsUnmatched openings.toList closings.toList text.toList start
          (cutEnd openings.toList closings.toList text.toList start) →
        ∀ piece ∈ cut, SelfContained openings.toList closings.toList separator piece.toList) := by
  have hend : cutEnd openings.toList closings.toList text.toList start =
      start + reach openings.toList closings.toList {} (text.toList.drop start) :=
    cutEnd_eq text.toList (by rwa [String.length_toList])
  have hempty : scan? openings.toList closings.toList {} ([] : List Char).reverse =
      some {} := rfl
  obtain ⟨hinner, hall⟩ := selfContained_piecesLoop hsep hempty
    (uncut_of_notMem not_mem_nil {}) (text.toList.drop start)
  refine ⟨_, cutPieces_eq hsep text start, ?_, ?_, ?_⟩
  · rw [← String.toList_inj, Text.join, String.toList_intercalate, String.toList_singleton,
      map_map, String.toList_ofList, hend, Chars.slice, drop_take,
      Nat.add_sub_cancel_left]
    simpa [Function.comp_def] using intercalate_piecesLoop hsep {} [] (text.toList.drop start)
  · rw [← map_dropLast, forall_mem_map]
    simpa only [String.toList_ofList] using hinner
  · intro hunmatched
    have hlt : start + reach openings.toList closings.toList {} (text.toList.drop start) <
        text.toList.length := by
      have hplace := hunmatched.1
      rw [hend] at hplace
      by_contra hge
      rw [getElem?_eq_none (Nat.le_of_not_lt hge)] at hplace
      cases hplace
    simpa using hall (by rw [length_drop]; omega)

/-- A text that ends with a bracket too many, and one that ends within a bracket and a string. -/
theorem join_cutPieces_broken :
    (∃ cut, cutPieces "f(a,\")\",g[x]), h" 2 "," "([" ")]" = .ok cut ∧
        Text.join "," cut = "a,\")\",g[x]" ∧
        ∀ piece ∈ cut, SelfContained "([".toList ")]".toList ',' piece.toList) ∧
      ∃ cut, cutPieces "f(a,(b,\"c" 2 "," "([" ")]" = .ok cut ∧
        Text.join "," cut = "a,(b,\"c" ∧
        ∀ piece ∈ cut.dropLast, SelfContained "([".toList ")]".toList ',' piece.toList := by
  constructor
  · obtain ⟨cut, hcut, hjoin, -, hall⟩ := join_cutPieces "([" ")]" ',' "f(a,\")\",g[x]), h" 2
      (by decide) (by decide)
    exact ⟨cut, hcut, hjoin.trans (by decide), hall (by decide)⟩
  · obtain ⟨cut, hcut, hjoin, hinner, -⟩ := join_cutPieces "([" ")]" ',' "f(a,(b,\"c" 2
      (by decide) (by decide)
    exact ⟨cut, hcut, hjoin.trans (by decide), hinner⟩

end BindingStubs.Source
