import BindingStubs.Proofs.Text.Infix
import BindingStubs.Proofs.Text.Search

set_option autoImplicit false

/-! # Blanks and lines -/

namespace BindingStubs.Chars

open List

theorem trim_cons_blank {b : Char} (hb : Text.isBlank b = true) (cs : List Char) :
    trim (b :: cs) = trim cs := by
  rw [trim, dropBlank, if_pos hb, trim]

theorem dropBlank_concat {b : Char} (hb : Text.isBlank b = true) (cs : List Char) :
    dropBlank (cs ++ [b]) = if dropBlank cs = [] then [] else dropBlank cs ++ [b] := by
  induction cs with
  | nil => simp [dropBlank, hb]
  | cons c cs ih =>
    rw [cons_append, dropBlank, dropBlank]
    split
    · exact ih
    · simp

theorem trim_concat_blank {b : Char} (hb : Text.isBlank b = true) (cs : List Char) :
    trim (cs ++ [b]) = trim cs := by
  rw [trim, trim, dropBlank_concat hb]
  split
  · next h => rw [h]
  · rw [reverse_append, reverse_singleton, singleton_append, dropBlank, if_pos hb]

theorem trim_blank_append {gap : List Char} (hgap : ∀ c ∈ gap, Text.isBlank c = true)
    (cs : List Char) : trim (gap ++ cs) = trim cs := by
  induction gap with
  | nil => rfl
  | cons c gap ih =>
    rw [cons_append, trim_cons_blank (hgap c mem_cons_self)]
    exact ih fun d hd => hgap d (mem_cons_of_mem c hd)

theorem trim_append_blank (cs : List Char) {gap : List Char}
    (hgap : ∀ c ∈ gap, Text.isBlank c = true) : trim (cs ++ gap) = trim cs := by
  induction gap using List.reverseRecOn with
  | nil => rw [append_nil]
  | append_singleton gap c ih =>
    rw [← append_assoc, trim_concat_blank (hgap c (mem_append_right gap mem_cons_self))]
    exact ih fun d hd => hgap d (mem_append_left [c] hd)

theorem exists_dropBlank (cs : List Char) :
    ∃ front, cs = front ++ dropBlank cs ∧ ∀ c ∈ front, Text.isBlank c = true := by
  induction cs with
  | nil => exact ⟨[], rfl, forall_mem_nil _⟩
  | cons c cs ih =>
    rw [dropBlank]
    split
    · next hc =>
      obtain ⟨front, hcs, hfront⟩ := ih
      exact ⟨c :: front, congrArg (c :: ·) hcs, forall_mem_cons.2 ⟨hc, hfront⟩⟩
    · exact ⟨[], rfl, forall_mem_nil _⟩

theorem exists_trim (cs : List Char) :
    ∃ front back, cs = front ++ (trim cs ++ back) ∧ ∀ c ∈ front ++ back, Text.isBlank c = true := by
  obtain ⟨front, hcs, hfront⟩ := exists_dropBlank cs
  obtain ⟨back, hrest, hback⟩ := exists_dropBlank (dropBlank cs).reverse
  refine ⟨front, back.reverse, ?_, ?_⟩
  · rw [trim, ← reverse_append, ← hrest, reverse_reverse]
    exact hcs
  · intro c hc
    rcases mem_append.1 hc with hc | hc
    · exact hfront c hc
    · exact hback c (mem_reverse.1 hc)

theorem trim_trim (cs : List Char) : trim (trim cs) = trim cs := by
  obtain ⟨front, back, hcs, hblank⟩ := exists_trim cs
  rw [forall_mem_append] at hblank
  conv_rhs => rw [hcs, trim_blank_append hblank.1, trim_append_blank _ hblank.2]

theorem dropBlank_eq_self_iff {cs : List Char} :
    dropBlank cs = cs ↔ cs.head?.all (!Text.isBlank ·) = true := by
  cases cs with
  | nil => simp [dropBlank]
  | cons c cs =>
    rw [dropBlank, head?_cons, Option.all_some]
    cases hc : Text.isBlank c with
    | false => simp
    | true =>
      have hlength := (dropBlank_suffix cs).length_le
      have hne : dropBlank cs ≠ c :: cs := by
        intro h
        rw [h, length_cons] at hlength
        omega
      simpa using hne

theorem trim_eq_self_iff {cs : List Char} :
    trim cs = cs ↔ cs.head?.all (!Text.isBlank ·) = true ∧ cs.getLast?.all (!Text.isBlank ·) = true := by
  rw [← head?_reverse, ← dropBlank_eq_self_iff, ← dropBlank_eq_self_iff]
  constructor
  · intro h
    have hstart : dropBlank cs = cs := by
      refine (dropBlank_suffix cs).eq_of_length_le ?_
      have hlength := (dropBlank_suffix (dropBlank cs).reverse).length_le
      rw [trim] at h
      rw [← length_reverse, h, length_reverse] at hlength
      exact hlength
    rw [trim, hstart] at h
    exact ⟨hstart, reverse_eq_iff.1 h⟩
  · rintro ⟨hstart, hend⟩
    rw [trim, hstart, hend, reverse_reverse]

theorem infix_dropBlank {part cs : List Char} (hfirst : part.head?.all (!Text.isBlank ·) = true)
    (h : part <:+: cs) : part <:+: dropBlank cs := by
  induction cs with
  | nil => exact h
  | cons d cs ih =>
    rw [dropBlank]
    split
    · next hblank =>
      rcases infix_cons_iff.1 h with hstart | hlater
      · cases part with
        | nil => exact nil_infix
        | cons c part =>
          obtain rfl : c = d := (cons_prefix_cons.1 hstart).1
          simp [hblank] at hfirst
      · exact ih hlater
    · exact h

theorem infix_trim_of_ends {part cs : List Char} (hfirst : part.head?.all (!Text.isBlank ·) = true)
    (hlast : part.getLast?.all (!Text.isBlank ·) = true) (h : part <:+: cs) : part <:+: trim cs := by
  have hfront : part.reverse <:+: (dropBlank cs).reverse :=
    reverse_infix.2 (infix_dropBlank hfirst h)
  rw [← head?_reverse] at hlast
  have hfound := reverse_infix.2 (infix_dropBlank hlast hfront)
  rwa [reverse_reverse] at hfound

open BindingStubs.Text

def unlines (lines : List (List Char)) : List Char := lines.flatMap (· ++ ['\n'])

theorem unlines_cons (line : List Char) (lines : List (List Char)) :
    unlines (line :: lines) = line ++ '\n' :: unlines lines := by
  simp [unlines]

theorem unlines_append (lines more : List (List Char)) :
    unlines (lines ++ more) = unlines lines ++ unlines more := flatMap_append

theorem unlines_concat (lines : List (List Char)) (line : List Char) :
    unlines (lines ++ [line]) = unlines lines ++ line ++ ['\n'] := by
  simp [unlines]

theorem split_unlines {lines : List (List Char)} (h : ∀ line ∈ lines, '\n' ∉ line) :
    split (unlines lines) ['\n'] = lines ++ [[]] := by
  induction lines with
  | nil => rfl
  | cons line lines ih =>
    obtain ⟨hline, hlines⟩ := forall_mem_cons.1 h
    rw [unlines_cons, split, splitLoop_append hline]
    refine (splitLoop_separator _ (unlines lines)).trans ?_
    rw [ih hlines, append_nil, reverse_reverse, cons_append]

theorem linesLoop_append {cs : List Char} (h : ∀ c ∈ cs, isLineEnd c = false)
    (line rest : List Char) : linesLoop line (cs ++ rest) = linesLoop (cs.reverse ++ line) rest := by
  induction cs generalizing line with
  | nil => rfl
  | cons c cs ih =>
    obtain ⟨hc, hcs⟩ := forall_mem_cons.1 h
    rw [cons_append, linesLoop, if_neg (by simp [hc]), ih hcs]
    · simp
    · rintro _ rfl
      exact absurd hc (by decide)

theorem lines_line {cs : List Char} (h : ∀ c ∈ cs, isLineEnd c = false) (rest : List Char) :
    lines (cs ++ '\n' :: rest) = (cs ++ ['\n']) :: lines rest := by
  rw [lines, linesLoop_append h, linesLoop, if_pos (by decide)]
  · simp [lines]
  · simp

theorem lines_last {cs : List Char} (h : ∀ c ∈ cs, isLineEnd c = false) (hne : cs ≠ []) :
    lines cs = [cs] := by
  rw [lines, ← append_nil cs, linesLoop_append h, linesLoop]
  simpa using hne

theorem indentWith_intercalate (margin : List Char) {pieces : List (List Char)} (hne : pieces ≠ [])
    (hends : ∀ piece ∈ pieces, ∀ c ∈ piece, isLineEnd c = false)
    (hblank : ∀ piece ∈ pieces, ∃ c ∈ piece, isBlank c = false) :
    indentWith margin (['\n'].intercalate pieces) ++ ['\n'] =
      unlines (pieces.map (margin ++ ·)) := by
  induction pieces with
  | nil => exact absurd rfl hne
  | cons piece others ih =>
    obtain ⟨hpiece, hothers⟩ := forall_mem_cons.1 hends
    obtain ⟨⟨c, hc, hdark⟩, hblank⟩ := forall_mem_cons.1 hblank
    have hsolid : ∀ cs : List Char, ¬ (piece ++ cs).all isBlank = true := by
      intro cs hall
      simp [all_eq_true.1 hall c (mem_append_left cs hc)] at hdark
    cases others with
    | nil =>
      have hone := hsolid []
      rw [append_nil] at hone
      rw [intercalate_singleton, indentWith, lines_last hpiece (ne_nil_of_mem hc),
        flatMap_singleton, if_neg hone]
      simp [unlines]
    | cons second others =>
      rw [intercalate_cons_cons, append_assoc, singleton_append, indentWith,
        lines_line hpiece, flatMap_cons, if_neg (hsolid _), map_cons, unlines_cons,
        ← ih (cons_ne_nil _ _) hothers hblank]
      simp [indentWith]

theorem trimEnd_concat_newline (cs : List Char) : trimEnd (cs ++ ['\n']) = trimEnd cs := by
  rw [trimEnd, reverse_concat, dropBlank, if_pos (by decide), trimEnd]

def EndsDark (line : List Char) : Prop := ∃ front c, line = front ++ [c] ∧ isBlank c = false

theorem trimEnd_unlines_concat (lines : List (List Char)) {line : List Char} (h : EndsDark line) :
    trimEnd (unlines (lines ++ [line])) ++ ['\n'] = unlines (lines ++ [line]) := by
  obtain ⟨front, c, rfl, hc⟩ := h
  rw [unlines_concat, trimEnd_concat_newline, ← append_assoc, trimEnd, reverse_concat,
    dropBlank, if_neg (by simp [hc]), reverse_cons, reverse_reverse]

theorem exists_trimEnd_unlines {first : List Char} (hfirst : EndsDark first)
    {lines : List (List Char)} (h : ∀ line ∈ lines, line = [] ∨ EndsDark line) :
    ∃ kept gaps, lines = kept ++ gaps ∧ (∀ gap ∈ gaps, gap = []) ∧
      trimEnd (unlines (first :: lines)) ++ ['\n'] = unlines (first :: kept) := by
  induction hlines : lines.reverse generalizing lines with
  | nil =>
    obtain rfl := reverse_eq_nil_iff.1 hlines
    exact ⟨[], [], rfl, forall_mem_nil _, trimEnd_unlines_concat [] hfirst⟩
  | cons last front ih =>
    obtain rfl : lines = front.reverse ++ [last] := by simp [← reverse_cons, ← hlines]
    obtain ⟨hfront, hlast⟩ := forall_mem_append.1 h
    rcases hlast last mem_cons_self with rfl | hdark
    · obtain ⟨kept, gaps, hkept, hgaps, htrim⟩ := ih hfront (reverse_reverse front)
      refine ⟨kept, gaps ++ [[]], by rw [hkept, append_assoc], ?_, ?_⟩
      · exact forall_mem_append.2 ⟨hgaps, by simp⟩
      · rw [← cons_append, unlines_concat, append_nil, trimEnd_concat_newline, htrim]
    · exact ⟨front.reverse ++ [last], [], by simp, forall_mem_nil _,
        trimEnd_unlines_concat (first :: front.reverse) hdark⟩

end BindingStubs.Chars
