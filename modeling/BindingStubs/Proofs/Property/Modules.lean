import BindingStubs.Proofs.Text.Blanks
import BindingStubs.Property.Text

set_option autoImplicit false

/-! # Modules of a type text -/

namespace BindingStubs

open List

namespace Property

theorem partsLoop_append_divider (part front : List Char) {c : Char} (hc : divides c = true)
    (rest : List Char) :
    partsLoop part (front ++ c :: rest) = partsLoop part front ++ partsLoop [] rest := by
  induction front generalizing part with
  | nil => simp [partsLoop, hc]
  | cons d front ih =>
    rw [cons_append, partsLoop, partsLoop]
    split
    · rw [ih, cons_append]
    · rw [ih]

theorem within_of_mem_partsLoop {part cs : List Char} (hpart : ∀ c ∈ part, divides c = false)
    {p : String} (h : p ∈ partsLoop part cs) :
    p.toList <:+: part.reverse ++ cs ∧ ∀ c ∈ p.toList, divides c = false := by
  induction cs generalizing part with
  | nil =>
    rw [partsLoop, mem_singleton] at h
    rw [h, String.toList_ofList]
    simpa using hpart
  | cons d cs ih =>
    rw [partsLoop] at h
    split at h
    · rcases mem_cons.1 h with rfl | h
      · rw [String.toList_ofList]
        refine ⟨infix_append_of_infix_left infix_rfl, ?_⟩
        simpa using hpart
      · obtain ⟨hwithin, hp⟩ := ih (forall_mem_nil _) h
        refine ⟨?_, hp⟩
        have hcs : p.toList <:+: cs := by simpa using hwithin
        exact hcs.trans ((suffix_cons d cs).isInfix.trans (suffix_append _ _).isInfix)
    · next hd =>
      have hcons : ∀ c ∈ d :: part, divides c = false :=
        forall_mem_cons.2 ⟨by simpa using hd, hpart⟩
      simpa using ih hcons h

theorem within_of_mem_modulesIn {type name : String} (h : name ∈ modulesIn type) :
    Text.Within name type ∧ ∀ c ∈ name.toList, divides c = false := by
  obtain ⟨part, hpart, hname⟩ := mem_filterMap.1 h
  obtain ⟨hpartWithin, hplain⟩ := within_of_mem_partsLoop (forall_mem_nil _) hpart
  have hwithin : Text.Within name part := by
    dsimp only at hname
    split at hname
    · cases hname
    · obtain ⟨cut, hcut, rfl⟩ := Option.map_eq_some_iff.1 hname
      exact (Text.Within.cutLast hcut (Text.Within.refl part).trim).1
  refine ⟨hwithin.trans hpartWithin, ?_⟩
  intro c hc
  exact hplain c (hwithin.subset hc)

def moduleOf? (name : String) : Option String :=
  if name == "..." then none else Naming.moduleName? name

theorem modulesIn_eq (type : String) :
    modulesIn type = ((partsLoop [] type.toList).map Text.trim).filterMap moduleOf? := by
  rw [filterMap_map]
  rfl

theorem map_trim_partsLoop_concat (part cs : List Char) :
    (partsLoop part (cs ++ [' '])).map Text.trim = (partsLoop part cs).map Text.trim := by
  induction cs generalizing part with
  | nil =>
    have htrim : Chars.trim (part.reverse ++ [' ']) = Chars.trim part.reverse :=
      Chars.trim_concat_blank (by decide) _
    have hdivides : divides ' ' = false := by decide
    simp [partsLoop, hdivides, Text.trim, htrim]
  | cons c cs ih =>
    rw [cons_append, partsLoop, partsLoop]
    split
    · rw [map_cons, map_cons, ih]
    · exact ih _

theorem map_trim_partsLoop_blank (part cs : List Char) :
    (partsLoop (part ++ [' ']) cs).map Text.trim = (partsLoop part cs).map Text.trim := by
  have htrim : ∀ part : List Char, Text.trim (String.ofList (part ++ [' ']).reverse) =
      Text.trim (String.ofList part.reverse) := by
    intro part
    rw [reverse_append, reverse_singleton, singleton_append, Text.trim,
      String.toList_ofList, Chars.trim_cons_blank (by decide), Text.trim, String.toList_ofList]
  induction cs generalizing part with
  | nil => rw [partsLoop, partsLoop, map_singleton, map_singleton, htrim]
  | cons c cs ih =>
    rw [partsLoop, partsLoop]
    split
    · rw [map_cons, map_cons, htrim]
    · rw [← cons_append, ih]

theorem modulesIn_blank_right (type : String) : modulesIn (type ++ " ") = modulesIn type := by
  have htext : (type ++ " ").toList = type.toList ++ [' '] := by simp
  rw [modulesIn_eq, modulesIn_eq, htext, map_trim_partsLoop_concat]

theorem modulesIn_blank_left (type : String) : modulesIn (" " ++ type) = modulesIn type := by
  have htext : (" " ++ type).toList = ' ' :: type.toList := by simp
  have hdivides : ¬ divides ' ' = true := by decide
  rw [modulesIn_eq, modulesIn_eq, htext, partsLoop, if_neg hdivides]
  exact congrArg (List.filterMap moduleOf?) (map_trim_partsLoop_blank [] _)

theorem modulesIn_divided {c : Char} (hc : divides c = true) (front rest : String) :
    modulesIn (front ++ String.singleton c ++ rest) = modulesIn front ++ modulesIn rest := by
  have htext : (front ++ String.singleton c ++ rest).toList = front.toList ++ c :: rest.toList := by
    simp
  rw [modulesIn_eq, htext, partsLoop_append_divider [] _ hc, map_append, filterMap_append,
    ← modulesIn_eq, ← modulesIn_eq]

/-- A text that divides what stands before it from what stands after it. -/
def Separates (sep : String) : Prop :=
  ∀ front rest, modulesIn (front ++ sep ++ rest) = modulesIn front ++ modulesIn rest

theorem separates_bar : Separates " | " := by
  intro front rest
  have htext : front ++ " | " ++ rest = (front ++ " ") ++ String.singleton '|' ++ (" " ++ rest) := by
    apply String.toList_inj.1
    simp
  rw [htext, modulesIn_divided (by decide), modulesIn_blank_right, modulesIn_blank_left]

theorem separates_comma : Separates ", " := by
  intro front rest
  have htext : front ++ ", " ++ rest = front ++ String.singleton ',' ++ (" " ++ rest) := by
    apply String.toList_inj.1
    simp
  rw [htext, modulesIn_divided (by decide), modulesIn_blank_left]

theorem Separates.modulesIn_join {sep : String} (h : Separates sep) (types : List String) :
    modulesIn (Text.join sep types) = types.flatMap modulesIn := by
  induction types with
  | nil => exact (by decide : modulesIn "" = [])
  | cons type types ih =>
    cases types with
    | nil => simp [Text.join]
    | cons second types =>
      have hcons : Text.join sep (type :: second :: types) =
          type ++ sep ++ Text.join sep (second :: types) := by
        simp [Text.join, String.append_assoc]
      rw [hcons, h, ih]
      rfl

theorem modulesIn_bracketed (name inner : String) :
    modulesIn (name ++ "[" ++ inner ++ "]") = modulesIn name ++ modulesIn inner := by
  have htext : name ++ "[" ++ inner ++ "]" =
      (name ++ String.singleton '[' ++ inner) ++ String.singleton ']' ++ "" := by
    apply String.toList_inj.1
    simp
  have hempty : modulesIn "" = [] := by decide
  rw [htext, modulesIn_divided (by decide), modulesIn_divided (by decide), hempty, append_nil]

end Property
end BindingStubs
