import BindingStubs.Documentation.Prepared
import BindingStubs.Proofs.Text.Blanks
import BindingStubs.Proofs.Text.Replacing

set_option autoImplicit false

/-! # Documentation that is prepared again -/

namespace BindingStubs.Documentation

open Text List

/-- Two quotes with only blanks between them. -/
def HasSeam (cs : List Char) : Prop :=
  ∃ gap, (∀ c ∈ gap, isBlank c = true) ∧ '"' :: (gap ++ ['"']) <:+: cs

theorem HasSeam.mono {part cs : List Char} (h : part <:+: cs) (hpart : HasSeam part) :
    HasSeam cs := by
  obtain ⟨gap, hgap, hseam⟩ := hpart
  exact ⟨gap, hgap, hseam.trans h⟩

theorem blanksThenQuote?_blank_append {gap : List Char} (hgap : ∀ c ∈ gap, isBlank c = true)
    (cs : List Char) : blanksThenQuote? (gap ++ cs) = blanksThenQuote? cs := by
  induction gap with
  | nil => rfl
  | cons c gap ih =>
    rw [forall_mem_cons] at hgap
    rw [cons_append, blanksThenQuote?, if_pos hgap.1, ih hgap.2]

theorem exists_of_blanksThenQuote? {cs after : List Char} (h : blanksThenQuote? cs = some after) :
    ∃ gap, (∀ c ∈ gap, isBlank c = true) ∧ cs = gap ++ '"' :: after := by
  induction cs with
  | nil => simp [blanksThenQuote?] at h
  | cons c cs ih =>
    rw [blanksThenQuote?] at h
    split at h
    · next hc =>
      obtain ⟨gap, hgap, rfl⟩ := ih h
      exact ⟨c :: gap, forall_mem_cons.2 ⟨hc, hgap⟩, rfl⟩
    · split at h
      · next hc =>
        rw [Option.some.inj h, beq_iff_eq.1 hc]
        exact ⟨[], forall_mem_nil _, rfl⟩
      · simp at h

variable {cs : List Char}

theorem hasSeam_cons {c : Char} :
    HasSeam (c :: cs) ↔ (c = '"' ∧ blanksThenQuote? cs ≠ none) ∨ HasSeam cs := by
  constructor
  · rintro ⟨gap, hgap, hseam⟩
    rcases infix_cons_iff.1 hseam with hstart | hlater
    · obtain ⟨rfl, rest, rfl⟩ := cons_prefix_cons.1 hstart
      rw [append_assoc, blanksThenQuote?_blank_append hgap]
      exact Or.inl ⟨rfl, by simp [blanksThenQuote?, isBlank]⟩
    · exact Or.inr ⟨gap, hgap, hlater⟩
  · rintro (⟨rfl, hquote⟩ | hlater)
    · obtain ⟨after, hafter⟩ := Option.ne_none_iff_exists'.1 hquote
      obtain ⟨gap, hgap, rfl⟩ := exists_of_blanksThenQuote? hafter
      refine ⟨gap, hgap, List.IsPrefix.isInfix ⟨after, ?_⟩⟩
      rw [cons_append, append_assoc, singleton_append]
    · exact hlater.mono (suffix_cons c cs).isInfix

theorem joinLines_eq_self (h : ¬ ['\\', 'n'] <:+: cs) : joinLines cs = cs := by
  fun_induction joinLines cs with
  | case1 => rfl
  | case2 rest after hafter ih => exact absurd ⟨[], '"' :: rest, rfl⟩ h
  | case3 rest hnone ih => exact absurd ⟨[], '"' :: rest, rfl⟩ h
  | case4 c rest hne ih =>
    rw [ih fun hrest => h (hrest.trans (suffix_cons c rest).isInfix)]

inductive Joined : List Char → List Char → Prop
  | nil : Joined [] []
  | seam {gap rest out : List Char} (hgap : ∀ c ∈ gap, isBlank c = true) (h : Joined rest out) :
      Joined ('"' :: (gap ++ '"' :: rest)) out
  | keep {c : Char} {rest out : List Char} (hc : c = '"' → blanksThenQuote? rest = none)
      (h : Joined rest out) : Joined (c :: rest) (c :: out)

theorem joined_joinLiterals (cs : List Char) : Joined cs (joinLiterals cs) := by
  fun_induction joinLiterals cs with
  | case1 => exact Joined.nil
  | case2 c rest hc after hafter ih =>
    obtain ⟨gap, hgap, rfl⟩ := exists_of_blanksThenQuote? hafter
    rw [beq_iff_eq.1 hc]
    exact Joined.seam hgap ih
  | case3 c rest hc hnone ih => exact Joined.keep (fun _ => hnone) ih
  | case4 c rest hc ih => exact Joined.keep (fun h => absurd (beq_iff_eq.2 h) hc) ih

namespace Joined

variable {cs out : List Char}

section
variable (h : Joined cs out)
include h

theorem sublist : out.Sublist cs := by
  induction h with
  | nil => exact List.Sublist.slnil
  | seam hgap h ih =>
    exact ((ih.cons '"').trans (sublist_append_right _ _)).cons '"'
  | keep hc h ih => exact ih.cons_cons _

theorem eq_of_not_hasSeam (hseam : ¬ HasSeam cs) : out = cs := by
  induction h with
  | nil => rfl
  | @seam gap rest out hgap h ih =>
    refine absurd ⟨gap, hgap, List.IsPrefix.isInfix ⟨rest, ?_⟩⟩ hseam
    rw [cons_append, append_assoc, singleton_append]
  | keep hc h ih => rw [ih fun hrest => hseam (hasSeam_cons.2 (Or.inr hrest))]

theorem blanksThenQuote?_eq_none (hnone : blanksThenQuote? cs = none) :
    blanksThenQuote? out = none := by
  induction h with
  | nil => rfl
  | seam hgap h ih => simp [blanksThenQuote?, isBlank] at hnone
  | keep hc h ih =>
    rw [blanksThenQuote?] at hnone ⊢
    split at hnone
    · next hblank => rw [if_pos hblank, ih hnone]
    · next hblank =>
      rw [if_neg hblank]
      split at hnone
      · simp at hnone
      · next hquote => rw [if_neg hquote]

theorem not_hasSeam : ¬ HasSeam out := by
  induction h with
  | nil => simp [HasSeam]
  | seam hgap h ih => exact ih
  | keep hc h ih =>
    rw [hasSeam_cons]
    rintro (⟨hquote, hnext⟩ | hlater)
    · exact hnext (h.blanksThenQuote?_eq_none (hc hquote))
    · exact ih hlater

theorem countP_lt (hseam : HasSeam cs) :
    out.countP (!isBlank ·) < cs.countP (!isBlank ·) := by
  induction h with
  | nil => simp [HasSeam] at hseam
  | @seam gap rest out hgap h ih =>
    have hkept := h.sublist.countP_le (p := (!isBlank ·))
    rw [countP_cons, countP_append, countP_cons]
    simp only [show isBlank '"' = false by decide]
    simp
    omega
  | keep hc h ih =>
    rw [countP_cons, countP_cons]
    rcases hasSeam_cons.1 hseam with ⟨hquote, hnext⟩ | hlater
    · exact absurd (hc hquote) hnext
    · have hrest := ih hlater
      omega

theorem eq_joinLiterals : out = joinLiterals cs := by
  induction h with
  | nil => rw [joinLiterals]
  | @seam gap rest out hgap h ih =>
    have hafter : blanksThenQuote? (gap ++ '"' :: rest) = some rest := by
      rw [blanksThenQuote?_blank_append hgap]
      rfl
    rw [joinLiterals, if_pos (beq_self_eq_true _), ih]
    split
    · next after hsome => rw [Option.some.inj (hafter.symm.trans hsome)]
    · next hnone => cases hafter.symm.trans hnone
  | @keep c rest out hc h ih =>
    rw [joinLiterals, ih]
    split
    · next hquote =>
      split
      · next after hsome => cases (hc (beq_iff_eq.1 hquote)).symm.trans hsome
      · rfl
    · rfl

theorem count_quote : out.count '"' % 2 = cs.count '"' % 2 := by
  induction h with
  | nil => rfl
  | @seam gap rest out hgap h ih =>
    have hnone : gap.count '"' = 0 :=
      count_eq_zero.2 fun hmem => absurd (hgap '"' hmem) (by decide)
    rw [count_cons_self, count_append, hnone, count_cons_self, ih]
    omega
  | keep hc h ih =>
    rw [count_cons, count_cons]
    omega

end

section
variable {gap : List Char} (hgap : ∀ c ∈ gap, isBlank c = true)
include hgap

theorem blank_append (h : Joined cs out) : Joined (gap ++ cs) (gap ++ out) := by
  induction gap with
  | nil => exact h
  | cons c gap ih =>
    rw [forall_mem_cons] at hgap
    refine .keep (fun hquote => ?_) (ih hgap.2)
    rw [hquote] at hgap
    exact absurd hgap.1 (by decide)

theorem blanksThenQuote?_append (hnone : blanksThenQuote? cs = none) :
    blanksThenQuote? (cs ++ gap) = none := by
  induction cs with
  | nil =>
    have hblank := blanksThenQuote?_blank_append hgap []
    rwa [append_nil] at hblank
  | cons c cs ih =>
    rw [cons_append, blanksThenQuote?]
    rw [blanksThenQuote?] at hnone
    split at hnone
    · next hc => rw [if_pos hc, ih hnone]
    · next hc =>
      rw [if_neg hc]
      split_ifs at hnone ⊢
      rfl

theorem append_blank (h : Joined cs out) : Joined (cs ++ gap) (out ++ gap) := by
  induction h with
  | nil => simpa using Joined.nil.blank_append hgap
  | seam hinside h ih =>
    rw [cons_append, append_assoc]
    exact .seam hinside ih
  | keep hc h ih => exact .keep (fun hquote => blanksThenQuote?_append hgap (hc hquote)) ih

end

end Joined

theorem exists_frame (cs : List Char) :
    ∃ front back, frame cs = front ++ (cs ++ back) ∧ ∀ c ∈ front ++ back, c = '\n' := by
  dsimp only [frame]
  split
  · split <;> split
    · exact ⟨[], [], by simp⟩
    · exact ⟨[], ['\n'], by simp⟩
    · exact ⟨['\n'], [], by simp⟩
    · exact ⟨['\n'], ['\n'], by simp⟩
  · exact ⟨[], [], by simp⟩

theorem trim_frame (cs : List Char) : Chars.trim (frame cs) = Chars.trim cs := by
  obtain ⟨front, back, hframe, hends⟩ := exists_frame cs
  have hblank : ∀ c ∈ front ++ back, isBlank c = true := by
    intro c hc
    rw [hends c hc]
    decide
  rw [forall_mem_append] at hblank
  rw [hframe, Chars.trim_blank_append hblank.1, Chars.trim_append_blank _ hblank.2]

theorem frame_trim_frame (cs : List Char) :
    frame (Chars.trim (frame (Chars.trim cs))) = frame (Chars.trim cs) := by
  rw [trim_frame, Chars.trim_trim]

theorem infix_of_prepareChars {part cs : List Char}
    (hfirst : part.head?.all (!isBlank ·) = true) (hlast : part.getLast?.all (!isBlank ·) = true)
    (h : part <:+: prepareChars cs) :
    part <:+: resolveEscapes (joinLiterals (joinLines cs)) := by
  have htrim := Chars.infix_trim_of_ends hfirst hlast h
  rw [prepareChars, trim_frame, Chars.trim_trim] at htrim
  exact htrim.trans (Chars.infix_trim _)

theorem not_lineEscape_prepareChars (cs : List Char) : ¬ ['\\', 'n'] <:+: prepareChars cs := by
  intro h
  refine Chars.not_pair_replace (by decide) (by decide) (Or.inr ?_)
    (infix_of_prepareChars (by decide) (by decide) h)
  exact Chars.not_pair_replace (by decide) (by decide) (Or.inl rfl)

theorem resolveEscapes_eq_self (hline : ¬ ['\\', 'n'] <:+: cs) (hquote : ¬ ['\\', '"'] <:+: cs) :
    resolveEscapes cs = cs := by
  rw [resolveEscapes, Chars.replace_eq_self (by decide) _ hline,
    Chars.replace_eq_self (by decide) _ hquote]

theorem countP_resolveEscapes (cs : List Char) :
    (resolveEscapes cs).countP (!isBlank ·) ≤ cs.countP (!isBlank ·) ∧
      (['\\', '"'] <:+: cs → ¬ ['\\', 'n'] <:+: cs →
        (resolveEscapes cs).countP (!isBlank ·) < cs.countP (!isBlank ·)) := by
  have hline := Chars.countP_replace (show ['\\', 'n'] ≠ [] by decide)
    (show ['\n'].countP (!isBlank ·) < _ by decide) cs
  have hquote := Chars.countP_replace (show ['\\', '"'] ≠ [] by decide)
    (show ['"'].countP (!isBlank ·) < _ by decide) (Chars.replace cs ['\\', 'n'] ['\n'])
  refine ⟨hquote.1.trans hline.1, fun hfound hnone => ?_⟩
  rw [Chars.replace_eq_self (by decide) _ hnone] at hquote
  rw [resolveEscapes, Chars.replace_eq_self (by decide) _ hnone]
  exact hquote.2 hfound

theorem countP_prepareChars_le (cs : List Char) :
    (prepareChars cs).countP (!isBlank ·) ≤
      (resolveEscapes (joinLiterals (joinLines cs))).countP (!isBlank ·) := by
  obtain ⟨front, back, hframe, hends⟩ :=
    exists_frame (Chars.trim (resolveEscapes (joinLiterals (joinLines cs))))
  have hnone : ∀ ends : List Char, (∀ c ∈ ends, c = '\n') → ends.countP (!isBlank ·) = 0 := by
    intro ends hends
    rw [countP_eq_zero]
    intro c hc
    rw [hends c hc]
    decide
  rw [forall_mem_append] at hends
  rw [prepareChars, hframe, countP_append, countP_append, hnone _ hends.1,
    hnone _ hends.2, Nat.zero_add, Nat.add_zero]
  exact (Chars.infix_trim _).sublist.countP_le

/-- What is left of seams and escaped quotes is lost when a text is prepared again. -/
theorem countP_prepareChars_lt (hline : ¬ ['\\', 'n'] <:+: cs)
    (h : HasSeam cs ∨ ['\\', '"'] <:+: cs) :
    (prepareChars cs).countP (!isBlank ·) < cs.countP (!isBlank ·) := by
  have hle := countP_prepareChars_le cs
  rw [joinLines_eq_self hline] at hle
  by_cases hseam : HasSeam cs
  · exact (hle.trans (countP_resolveEscapes _).1).trans_lt ((joined_joinLiterals cs).countP_lt hseam)
  · rw [(joined_joinLiterals cs).eq_of_not_hasSeam hseam] at hle
    exact hle.trans_lt ((countP_resolveEscapes cs).2 (h.resolve_left hseam) hline)

theorem prepareChars_prepareChars_iff (cs : List Char) :
    prepareChars (prepareChars cs) = prepareChars cs ↔
      ¬ HasSeam (prepareChars cs) ∧ ¬ ['\\', '"'] <:+: prepareChars cs := by
  have hline := not_lineEscape_prepareChars cs
  rw [← not_or]
  constructor
  · intro hsame hleft
    have hless := countP_prepareChars_lt hline hleft
    rw [hsame] at hless
    exact Nat.lt_irrefl _ hless
  · intro hnone
    rw [not_or] at hnone
    rw [prepareChars, joinLines_eq_self hline, (joined_joinLiterals _).eq_of_not_hasSeam hnone.1,
      resolveEscapes_eq_self hline hnone.2]
    exact frame_trim_frame _

theorem mem_of_mem_joinLines {c : Char} (hc : c ≠ '\n') (h : c ∈ joinLines cs) : c ∈ cs := by
  fun_induction joinLines cs with
  | case1 => exact h
  | case2 rest after hafter ih =>
    obtain ⟨gap, -, rfl⟩ := exists_of_blanksThenQuote? hafter
    have hrest := ih ((mem_cons.1 h).resolve_left hc)
    simp [hrest]
  | case3 rest hnone ih => exact mem_cons.2 ((mem_cons.1 h).imp_right ih)
  | case4 d rest hne ih => exact mem_cons.2 ((mem_cons.1 h).imp_right ih)

theorem quote_mem_of_prepareChars (h : '"' ∈ prepareChars cs) : '"' ∈ cs := by
  have hresolved := (singleton_infix_iff _ _).1
    (infix_of_prepareChars (by decide) (by decide) ((singleton_infix_iff _ _).2 h))
  have hlines : '"' ∈ Chars.replace (joinLiterals (joinLines cs)) ['\\', 'n'] ['\n'] := by
    rcases Chars.mem_of_mem_replace (by decide) hresolved with hmem | ⟨-, hfound⟩
    · exact hmem
    · exact hfound.subset (by decide)
  rcases Chars.mem_of_mem_replace (by decide) hlines with hmem | ⟨hmem, -⟩
  · exact mem_of_mem_joinLines (by decide) ((joined_joinLiterals _).sublist.subset hmem)
  · exact absurd hmem (by decide)

theorem resolveEscapes_of_notMem (h : '\\' ∉ cs) :
    resolveEscapes (joinLiterals (joinLines cs)) = joinLiterals cs := by
  have hpair : ∀ {part : List Char} (d : Char), '\\' ∉ part → ¬ ['\\', d] <:+: part := by
    intro part d hpart hfound
    exact hpart (hfound.subset mem_cons_self)
  have hjoined : '\\' ∉ joinLiterals cs := fun hmem => h ((joined_joinLiterals cs).sublist.subset hmem)
  rw [joinLines_eq_self (hpair 'n' h), resolveEscapes_eq_self (hpair 'n' hjoined) (hpair '"' hjoined)]

theorem escape_mem_of_prepareChars (h : '\\' ∈ prepareChars cs) : '\\' ∈ cs := by
  by_contra hnone
  have hresolved := infix_of_prepareChars (by decide) (by decide) ((singleton_infix_iff _ _).2 h)
  rw [resolveEscapes_of_notMem hnone, singleton_infix_iff] at hresolved
  exact hnone ((joined_joinLiterals cs).sublist.subset hresolved)

theorem settled_of_plain (h : '\\' ∉ cs ∨ '"' ∉ cs) :
    ¬ HasSeam (prepareChars cs) ∧ ¬ ['\\', '"'] <:+: prepareChars cs := by
  rcases h with hescape | hquote
  · have hends : ∀ gap : List Char, ('"' :: (gap ++ ['"'])).getLast?.all (!isBlank ·) = true := by
      intro gap
      rw [← cons_append, getLast?_concat]
      decide
    constructor
    · rintro ⟨gap, hgap, hseam⟩
      have hfound := infix_of_prepareChars rfl (hends gap) hseam
      rw [resolveEscapes_of_notMem hescape] at hfound
      exact (joined_joinLiterals cs).not_hasSeam ⟨gap, hgap, hfound⟩
    · intro hpair
      exact hescape (escape_mem_of_prepareChars (hpair.subset mem_cons_self))
  · have hnone : '"' ∉ prepareChars cs := fun hmem => hquote (quote_mem_of_prepareChars hmem)
    constructor
    · rintro ⟨gap, -, hseam⟩
      exact hnone (hseam.subset mem_cons_self)
    · intro hpair
      exact hnone (hpair.subset (by decide))

/-- A prepared text stays as it is unless a seam or an escaped quote is left in it, and neither is
left where the text has no escapes or no quotes. What does not stay loses visible characters. -/
theorem prepare_prepare (text : String) :
    (prepare (prepare text) = prepare text ↔
      ¬ HasSeam (prepare text).toList ∧ ¬ ['\\', '"'] <:+: (prepare text).toList) ∧
    ('\\' ∉ text.toList ∨ '"' ∉ text.toList → prepare (prepare text) = prepare text) ∧
    (prepare (prepare text) ≠ prepare text →
      (prepare (prepare text)).toList.countP (!isBlank ·) <
        (prepare text).toList.countP (!isBlank ·)) := by
  have htwice : prepare (prepare text) = prepare text ↔
      prepareChars (prepareChars text.toList) = prepareChars text.toList := by
    rw [prepare, prepare, String.toList_ofList, String.ofList_inj]
  have hchars := prepareChars_prepareChars_iff text.toList
  refine ⟨?_, fun hplain => ?_, fun hne => ?_⟩
  · rw [htwice, hchars, prepare, String.toList_ofList]
  · exact htwice.2 (hchars.2 (settled_of_plain hplain))
  · have hleft := mt hchars.2 (mt htwice.2 hne)
    rw [← not_or, not_not] at hleft
    have hless := countP_prepareChars_lt (not_lineEscape_prepareChars text.toList) hleft
    rwa [prepare, prepare, String.toList_ofList, String.toList_ofList]

/-- Two escaped quotes side by side are a seam once they are resolved. -/
theorem prepare_prepare_empty_quotes :
    prepare "\\\"\\\"" = "\"\"" ∧ prepare (prepare "\\\"\\\"") = "" := by
  decide +kernel

end BindingStubs.Documentation
