import BindingStubs.Source.Call
import Mathlib.Data.List.Infix

set_option autoImplicit false

/-! # Parts of a text -/

namespace BindingStubs

open List

namespace Chars

theorem dropBlank_suffix (cs : List Char) : dropBlank cs <:+ cs := by
  induction cs with
  | nil => exact suffix_rfl
  | cons c cs ih =>
    rw [dropBlank]
    split
    · exact ih.trans (suffix_cons c cs)
    · exact suffix_rfl

theorem infix_trim (cs : List Char) : trim cs <:+: cs := by
  have hend : trim cs <+: dropBlank cs := by
    rw [trim, ← reverse_suffix, reverse_reverse]
    exact dropBlank_suffix _
  exact hend.isInfix.trans (dropBlank_suffix cs).isInfix

theorem infix_slice (cs : List Char) (first last : Nat) : slice cs first last <:+: cs := by
  have hfront : cs.take last <+: cs := take_prefix last cs
  exact (drop_suffix first _).isInfix.trans hfront.isInfix

theorem infix_dropStart (cs part : List Char) : dropStart cs part <:+: cs := by
  rw [dropStart]
  split
  · exact (drop_suffix _ cs).isInfix
  · exact infix_rfl

theorem infix_dropEnd (cs part : List Char) : dropEnd cs part <:+: cs := by
  rw [dropEnd]
  split
  · exact infix_slice cs 0 _
  · exact infix_rfl

end Chars

namespace Text

def Within (part s : String) : Prop := part.toList <:+: s.toList

namespace Within

variable {part s t : String}

theorem refl (s : String) : Within s s := infix_rfl

theorem trans (h₁ : Within part s) (h₂ : Within s t) : Within part t := List.IsInfix.trans h₁ h₂

theorem empty (s : String) : Within "" s := nil_infix

theorem ofList {cs : List Char} (h : cs <:+: s.toList) : Within (String.ofList cs) s := by
  rw [Within, String.toList_ofList]
  exact h

theorem trim (h : Within s t) : Within (Text.trim s) t :=
  (ofList (Chars.infix_trim _)).trans h

theorem dropStart (h : Within s t) (part : String) : Within (Text.dropStart s part) t :=
  (ofList (Chars.infix_dropStart _ _)).trans h

theorem dropEnd (h : Within s t) (part : String) : Within (Text.dropEnd s part) t :=
  (ofList (Chars.infix_dropEnd _ _)).trans h

theorem first (h : Within s t) (n : Nat) : Within (Text.first s n) t :=
  (ofList (Chars.infix_slice _ 0 n)).trans h

theorem after (h : Within s t) (n : Nat) : Within (Text.after s n) t :=
  (ofList (drop_suffix _ _).isInfix).trans h

theorem cutFirst {a b sep : String} (hcut : Text.cutFirst? s sep = some (a, b)) (h : Within s t) :
    Within a t ∧ Within b t := by
  simp only [Text.cutFirst?, Chars.cutFirst?, Option.map_map, Option.map_eq_some_iff,
    Function.comp_apply, Prod.mk.injEq] at hcut
  obtain ⟨i, -, rfl, rfl⟩ := hcut
  exact ⟨h.first i, h.after _⟩

theorem cutLast {a b sep : String} (hcut : Text.cutLast? s sep = some (a, b)) (h : Within s t) :
    Within a t ∧ Within b t := by
  simp only [Text.cutLast?, Chars.cutLast?, Option.map_map, Option.map_eq_some_iff,
    Function.comp_apply, Prod.mk.injEq] at hcut
  obtain ⟨i, -, rfl, rfl⟩ := hcut
  exact ⟨h.first i, h.after _⟩

theorem before (h : Within s t) (sep : String) : Within (Text.before s sep) t := by
  rw [Text.before]
  cases hcut : Text.cutFirst? s sep with
  | none => exact h
  | some cut => exact (cutFirst hcut h).1

end Within

end Text

namespace Source

theorem infix_of_mem_piecesLoop (openings closings : List Char) (separator : Option Char) (s : Inside)
    (piece cs : List Char) :
    ∀ p ∈ piecesLoop openings closings separator s piece cs, p <:+: piece.reverse ++ cs := by
  induction cs generalizing s piece with
  | nil =>
    intro p hp
    rw [piecesLoop, mem_singleton] at hp
    rw [hp, append_nil]
  | cons c cs ih =>
    intro p hp
    have hgo : ∀ t : Inside, p ∈ piecesLoop openings closings separator t (c :: piece) cs →
        p <:+: piece.reverse ++ c :: cs := by
      intro t ht
      simpa using ih t (c :: piece) p ht
    have hend : p = piece.reverse → p <:+: piece.reverse ++ c :: cs := by
      rintro rfl
      exact infix_append_of_infix_left infix_rfl
    have hcut : p ∈ piece.reverse :: piecesLoop openings closings separator s [] cs →
        p <:+: piece.reverse ++ c :: cs := by
      intro h
      rcases mem_cons.1 h with h | h
      · exact hend h
      · have hrest : p <:+: cs := by simpa using ih s [] p h
        exact hrest.trans ((suffix_cons c cs).isInfix.trans (suffix_append _ _).isInfix)
    simp only [piecesLoop] at hp
    -- The only branches that do not go on with the piece are the two at which it ends.
    split_ifs at hp
    · exact hgo _ hp
    · exact hgo _ hp
    · exact hgo _ hp
    · exact hgo _ hp
    · exact hgo _ hp
    · split at hp
      · exact hend (mem_singleton.1 hp)
      · exact hgo _ hp
    · exact hcut hp
    · exact hgo _ hp

theorem infix_of_mem_pieces {p text : List Char} {start : Nat} {separator : Option Char}
    {openings closings : List Char} (h : p ∈ pieces text start separator openings closings) :
    p <:+: text :=
  (infix_of_mem_piecesLoop openings closings separator {} [] _ p h).trans (drop_suffix _ _).isInfix

theorem within_of_mem_commaPieces {p text : String} (h : p ∈ commaPieces text) :
    Text.Within p text := by
  obtain ⟨cs, hcs, rfl⟩ := mem_map.1 h
  exact .ofList (infix_of_mem_pieces hcs)

theorem within_headD_commaPieces (text : String) :
    Text.Within ((commaPieces text).headD "") text := by
  rcases h : commaPieces text with _ | ⟨p, rest⟩
  · exact .empty text
  · exact within_of_mem_commaPieces (h ▸ mem_cons_self : p ∈ commaPieces text)

theorem within_of_callArguments {text argument : String} {start : Option Int}
    {arguments : List String} (h : callArguments text start = .ok arguments)
    (hmem : argument ∈ arguments) : Text.Within argument text := by
  simp only [callArguments, bind, Except.bind] at h
  split at h
  · cases h
  · cases h
    simp only [argumentsOf, mem_filterMap, mem_map] at hmem
    obtain ⟨trimmed, ⟨piece, hpiece, rfl⟩, hkept⟩ := hmem
    split at hkept
    · cases hkept
    · cases hkept
      refine .ofList ((Chars.infix_trim piece).trans ((infix_of_mem_pieces hpiece).trans ?_))
      exact (Chars.infix_slice _ _ _).trans (Chars.infix_slice _ _ _)

end Source

end BindingStubs
