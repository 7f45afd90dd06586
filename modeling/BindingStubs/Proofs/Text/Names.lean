import BindingStubs.Proofs.Text.Infix
import BindingStubs.Proofs.Text.Search

set_option autoImplicit false

/-! # Characters of names -/

namespace BindingStubs.Text

open List

def isNameChar (c : Char) : Bool := isNameStart c || isNamePart c

def IsNameLike (s : String) : Prop := ∀ c ∈ s.toList, isNameChar c = true

theorem IsNameLike.of_isIdentifier {s : String} (hs : isIdentifier s = true) : IsNameLike s := by
  rw [isIdentifier] at hs
  intro c hc
  rcases hlist : s.toList with _ | ⟨first, rest⟩
  · rw [hlist] at hc
    cases hc
  · rw [hlist, isName, Bool.and_eq_true, all_eq_true] at hs
    rw [hlist] at hc
    rcases mem_cons.1 hc with rfl | hc
    · rw [isNameChar, hs.1, Bool.true_or]
    · rw [isNameChar, hs.2 c hc, Bool.or_true]

theorem IsNameLike.within {s part : String} (hs : IsNameLike s) (h : Within part s) :
    IsNameLike part :=
  fun c hc => hs c (h.subset hc)

def blankCodes : List Nat :=
  [9, 10, 11, 12, 13, 28, 29, 30, 31, 32, 0x85, 0xA0, 0x1680, 0x2000, 0x2001, 0x2002, 0x2003, 0x2004,
    0x2005, 0x2006, 0x2007, 0x2008, 0x2009, 0x200A, 0x2028, 0x2029, 0x202F, 0x205F, 0x3000]

theorem mem_blankCodes {c : Char} (h : isBlank c = true) : c.toNat ∈ blankCodes := by
  simp only [isBlank] at h
  simp only [blankCodes, mem_cons, not_mem_nil, or_false]
  split at h
  · simp only [Bool.or_eq_true, Bool.and_eq_true, beq_iff_eq, decide_eq_true_eq] at h
    omega
  · simp only [Bool.or_eq_true, Bool.and_eq_true, beq_iff_eq, decide_eq_true_eq] at h
    omega

theorem not_isNameChar_of_isBlank {c : Char} (h : isBlank c = true) : isNameChar c = false := by
  have hcodes : ∀ code ∈ blankCodes, isNameChar (Char.ofNat code) = false := by decide +kernel
  rw [← Char.ofNat_toNat c]
  exact hcodes _ (mem_blankCodes h)

theorem not_isWord_of_isBlank {c : Char} (h : isBlank c = true) : isWord c = false := by
  have hcodes : ∀ code ∈ blankCodes, isWord (Char.ofNat code) = false := by decide +kernel
  rw [← Char.ofNat_toNat c]
  exact hcodes _ (mem_blankCodes h)

def isForeign (s : String) : Bool := s.toList.any fun c => !isNameChar c

section
variable {s part : String}

theorem IsNameLike.not_within (hs : IsNameLike s) (hpart : isForeign part = true) :
    ¬ Within part s := by
  intro h
  obtain ⟨c, hc, hforeign⟩ := any_eq_true.1 hpart
  rw [hs c (h.subset hc)] at hforeign
  cases hforeign

theorem IsNameLike.startsWith (hs : IsNameLike s) (hpart : isForeign part = true) :
    startsWith s part = false := by
  by_contra h
  rw [Bool.not_eq_false, Text.startsWith, Chars.startsWith, isPrefixOf_iff_prefix] at h
  exact hs.not_within hpart h.isInfix

theorem IsNameLike.endsWith (hs : IsNameLike s) (hpart : isForeign part = true) :
    endsWith s part = false := by
  by_contra h
  rw [Bool.not_eq_false, Text.endsWith, Chars.endsWith, isSuffixOf_iff_suffix] at h
  exact hs.not_within hpart h.isInfix

theorem IsNameLike.beq (hs : IsNameLike s) (hpart : isForeign part = true) : (s == part) = false := by
  rw [beq_eq_false_iff_ne]
  rintro rfl
  exact hs.not_within hpart (.refl s)

theorem dropStart_eq_self (h : startsWith s part = false) : dropStart s part = s := by
  rw [startsWith, Chars.startsWith] at h
  rw [dropStart, Chars.dropStart, h, if_neg Bool.false_ne_true, String.ofList_toList]

theorem dropEnd_eq_self (h : endsWith s part = false) : dropEnd s part = s := by
  rw [endsWith, Chars.endsWith] at h
  rw [dropEnd, Chars.dropEnd, h, if_neg Bool.false_ne_true, String.ofList_toList]

theorem IsNameLike.trim (hs : IsNameLike s) : trim s = s := by
  have hkept : ∀ cs : List Char, (∀ c ∈ cs, isNameChar c = true) → Chars.dropBlank cs = cs := by
    intro cs hcs
    cases cs with
    | nil => rfl
    | cons c cs =>
      have hchar := hcs c mem_cons_self
      rw [Chars.dropBlank, if_neg]
      intro hblank
      rw [not_isNameChar_of_isBlank hblank] at hchar
      cases hchar
  rw [Text.trim, Chars.trim, hkept _ hs, hkept _ fun c hc => hs c (mem_reverse.1 hc), reverse_reverse,
    String.ofList_toList]

end

end BindingStubs.Text
