import BindingStubs.Literal.Token
import BindingStubs.Proofs.Documentation.Prepared

set_option autoImplicit false

/-! # Where a documentation literal is closed -/

namespace BindingStubs

open List

namespace Literal

variable {quote c : Char} {rest : List Char}

theorem quotedBody?_escape (long : Bool) :
    quotedBody? quote long ('\\' :: c :: rest) =
      (quotedBody? quote long rest).map fun (b, a) => ('\\' :: c :: b, a) := by
  rw [quotedBody?]

theorem quotedBody?_cons (hquote : c ≠ quote) (hescape : c ≠ '\\') :
    quotedBody? quote true (c :: rest) =
      (quotedBody? quote true rest).map fun (b, a) => (c :: b, a) := by
  rw [quotedBody?]
  · simp [hquote, hescape]
  · simp [hescape]

theorem quotedBody?_quote (hescape : quote ≠ '\\') :
    quotedBody? quote true (quote :: rest) =
      if rest.take 2 = [quote, quote] then some ([], rest.drop 2)
      else (quotedBody? quote true rest).map fun (b, a) => (quote :: b, a) := by
  rw [quotedBody?]
  · simp
  · simp [hescape]

end Literal

namespace Documentation

open Literal

/-- Is a character after these escaped? It is if the escape before it is not escaped itself. -/
def isEscaped (front : List Char) : Bool :=
  (front.reverse.takeWhile (· == '\\')).length % 2 == 1

theorem isEscaped_append {start : List Char} (h : isEscaped start = false) (front : List Char) :
    isEscaped (start ++ front) = isEscaped front := by
  rw [isEscaped, beq_eq_false_iff_ne] at h
  rw [isEscaped, isEscaped, reverse_append, takeWhile_append]
  split
  · next hall =>
    rw [length_append, ← hall, Nat.add_mod]
    rw [Nat.mod_two_ne_one.1 h, Nat.add_zero, Nat.mod_mod]
  · rfl

theorem isEscaped_cons {c : Char} (hc : c ≠ '\\') (front : List Char) :
    isEscaped (c :: front) = isEscaped front := by
  have hstart : isEscaped [c] = false := by simp [isEscaped, hc]
  exact isEscaped_append hstart front

theorem isEscaped_escape (c : Char) (front : List Char) :
    isEscaped ('\\' :: c :: front) = isEscaped front := by
  have hstart : isEscaped ['\\', c] = false := by
    by_cases hc : c = '\\' <;> simp [isEscaped, hc]
  exact isEscaped_append hstart front

def IsSealed (cs : List Char) : Prop :=
  (∀ front rest, cs ++ ['"', '"'] = front ++ '"' :: '"' :: '"' :: rest → isEscaped front = true) ∧
    isEscaped cs = false

theorem isSealed_escape {c : Char} {cs : List Char} :
    IsSealed ('\\' :: c :: cs) ↔ IsSealed cs := by
  rw [IsSealed, IsSealed, isEscaped_escape]
  refine and_congr_left fun _ => ⟨fun h front rest hcs => ?_, fun h front rest hcs => ?_⟩
  · rw [← isEscaped_escape c front]
    refine h ('\\' :: c :: front) rest ?_
    rw [cons_append, cons_append, hcs]
    rfl
  · rcases front with _ | ⟨d, _ | ⟨e, front⟩⟩
    · simp at hcs
    · rw [← (List.cons.inj hcs).1]
      rfl
    · simp only [cons_append, List.cons.injEq] at hcs
      rw [← hcs.1, isEscaped_escape]
      exact h front rest hcs.2.2

theorem isSealed_cons {c : Char} (hc : c ≠ '\\') {cs : List Char} :
    IsSealed (c :: cs) ↔ ¬ (c = '"' ∧ (cs ++ ['"', '"']).take 2 = ['"', '"']) ∧ IsSealed cs := by
  rw [IsSealed, IsSealed, isEscaped_cons hc, ← and_assoc]
  refine and_congr_left fun _ => ⟨fun h => ⟨?_, fun front rest hcs => ?_⟩, fun h front rest hcs => ?_⟩
  · rintro ⟨rfl, htake⟩
    have hopen := h [] ((cs ++ ['"', '"']).drop 2) ?_
    · simp [isEscaped] at hopen
    · rw [cons_append, ← take_append_drop 2 (cs ++ ['"', '"']), htake]
      simp
  · rw [← isEscaped_cons hc front]
    exact h (c :: front) rest (congrArg (c :: ·) hcs)
  · cases front with
    | nil =>
      simp only [cons_append, nil_append, List.cons.injEq] at hcs
      exact absurd ⟨hcs.1, by rw [hcs.2]; rfl⟩ h.1
    | cons d front =>
      obtain ⟨rfl, hrest⟩ := List.cons.inj hcs
      rw [isEscaped_cons hc]
      exact h.2 front rest hrest

theorem quotedBody?_eq_self_iff (cs after : List Char) :
    quotedBody? '"' true (cs ++ '"' :: '"' :: '"' :: after) = some (cs, after) ↔ IsSealed cs := by
  have hmap : ∀ (start tail : List Char) (o : Option (List Char × List Char)),
      (o.map fun (b, a) => (start ++ b, a)) = some (start ++ tail, after) ↔ o = some (tail, after) := by
    intro start tail o
    cases o <;> simp [Prod.ext_iff]
  induction hlength : cs.length using Nat.strong_induction_on generalizing cs with
  | _ n ih =>
    rcases cs with _ | ⟨c, cs⟩
    · rw [nil_append, quotedBody?_quote (by decide)]
      refine iff_of_true rfl ⟨fun front rest hcs => ?_, rfl⟩
      have hshort := congrArg List.length hcs
      simp at hshort
      omega
    · rw [length_cons] at hlength
      by_cases hescape : c = '\\'
      · subst hescape
        rcases cs with _ | ⟨d, cs⟩
        · -- the escape takes the first of the quotes, so it is not the whole body
          refine iff_of_false ?_ fun h => absurd h.2 (by decide)
          rw [singleton_append, quotedBody?_escape]
          rintro hbody
          obtain ⟨read, -, hread⟩ := Option.map_eq_some_iff.1 hbody
          simp at hread
        · rw [length_cons] at hlength
          rw [isSealed_escape, cons_append, cons_append, quotedBody?_escape]
          exact (hmap ['\\', d] cs _).trans (ih cs.length (by omega) cs rfl)
      · have hrest := ih cs.length (by omega) cs rfl
        rw [isSealed_cons hescape, cons_append]
        by_cases hquote : c = '"'
        · subst hquote
          have htake : (cs ++ '"' :: '"' :: '"' :: after).take 2 = (cs ++ ['"', '"']).take 2 := by
            rcases cs with _ | ⟨d, _ | ⟨e, cs⟩⟩ <;> rfl
          rw [quotedBody?_quote (by decide), htake]
          split
          · next hclose => simp [hclose]
          · next hopen =>
            rw [and_iff_right fun hclose => hopen hclose.2]
            exact (hmap ['"'] cs _).trans hrest
        · rw [quotedBody?_cons hquote hescape, and_iff_right fun hclose => hquote hclose.1]
          exact (hmap [c] cs _).trans hrest

theorem isEscaped_concat {c : Char} (hc : c ≠ '\\') (front : List Char) :
    isEscaped (front ++ [c]) = false := by
  simp [isEscaped, hc]

theorem isSealed_iff {cs : List Char} :
    IsSealed cs ↔
      (∀ front rest, cs = front ++ '"' :: '"' :: '"' :: rest → isEscaped front = true) ∧
      (∀ front, cs = front ++ ['"'] → isEscaped front = true) ∧ isEscaped cs = false := by
  rw [IsSealed, ← and_assoc]
  refine and_congr_left fun _ => ⟨fun h => ⟨fun front rest hcs => ?_, fun front hcs => ?_⟩, ?_⟩
  · exact h front (rest ++ ['"', '"']) (by rw [hcs]; simp)
  · exact h front [] (by rw [hcs]; simp)
  · rintro ⟨hinside, hlast⟩ front rest hcs
    rcases rest.eq_nil_or_concat' with rfl | ⟨rest, x, rfl⟩
    · have hend : cs ++ ['"', '"'] = (front ++ ['"']) ++ ['"', '"'] := by
        rw [hcs]
        simp
      exact hlast front (append_inj_left' hend rfl)
    · rcases rest.eq_nil_or_concat' with rfl | ⟨rest, y, rfl⟩
      · have hend : cs ++ ['"', '"'] = (front ++ ['"'] ++ ['"']) ++ ['"', x] := by
          rw [hcs]
          simp
        have hopen := hlast (front ++ ['"']) (append_inj_left' hend rfl)
        rw [isEscaped_concat (by decide)] at hopen
        simp at hopen
      · have hend : cs ++ ['"', '"'] = (front ++ '"' :: '"' :: '"' :: rest) ++ [y, x] := by
          rw [hcs]
          simp
        exact hinside front rest (append_inj_left' hend rfl)

theorem getLast?_frame {cs : List Char} (h : '\n' ∈ frame cs) :
    (frame cs).getLast? = some '\n' := by
  dsimp only [frame] at h ⊢
  split at h
  · next hlines =>
    rw [if_pos hlines]
    generalize (if cs.head? == some '\n' then cs else '\n' :: cs) = started
    split
    · next hend =>
      obtain ⟨front, rfl⟩ := isSuffixOf_iff_suffix.1 hend
      rw [getLast?_concat]
    · rw [getLast?_concat]
  · next hlines => exact absurd (contains_iff_mem.2 h) hlines

/-- A literal in triple quotes with a line end after it: from the opening quotes on, the first
quotes that close it are the last ones. -/
def IsClosed (s : String) : Prop :=
  ∃ body, s.toList = '"' :: '"' :: '"' :: (body ++ ['"', '"', '"', '\n']) ∧
    quotedBody? '"' true (body ++ ['"', '"', '"', '\n']) = some (body, ['\n'])

theorem isClosed_iff (body : String) :
    IsClosed ("\"\"\"" ++ body ++ "\"\"\"\n") ↔ IsSealed body.toList := by
  rw [← quotedBody?_eq_self_iff body.toList ['\n']]
  have hchars : ("\"\"\"" ++ body ++ "\"\"\"\n").toList =
      '"' :: '"' :: '"' :: (body.toList ++ ['"', '"', '"', '\n']) := by
    simp
  constructor
  · rintro ⟨other, hsame, hread⟩
    rw [hchars] at hsame
    simp only [List.cons.injEq, true_and, append_cancel_right_eq] at hsame
    rw [hsame]
    exact hread
  · intro hread
    exact ⟨body.toList, hchars, hread⟩

theorem docstring_eq {text : String} (h : prepare text ≠ "") :
    docstring text = "\"\"\"" ++ prepare text ++ "\"\"\"\n" := by
  have hne : (prepare text).isEmpty = false := by simpa using h
  rw [docstring, hne, if_neg Bool.false_ne_true]

theorem exists_concat_of_line {text : String} (h : '\n' ∈ (prepare text).toList) :
    ∃ front, (prepare text).toList = front ++ ['\n'] := by
  rw [prepare, String.toList_ofList] at h ⊢
  exact getLast?_eq_some_iff.1 (getLast?_frame h)

theorem isSealed_of_plain {cs : List Char} (hquote : '"' ∉ cs) (hescape : '\\' ∉ cs) :
    IsSealed cs := by
  refine isSealed_iff.2 ⟨fun front rest hcs => ?_, fun front hcs => ?_, ?_⟩
  · exact absurd (by simp [hcs]) hquote
  · exact absurd (by simp [hcs]) hquote
  · rcases cs.eq_nil_or_concat' with rfl | ⟨front, c, rfl⟩
    · rfl
    · refine isEscaped_concat (fun hc => hescape ?_) front
      rw [hc]
      exact mem_append_right front mem_cons_self

/-- A documentation literal is closed where it ends if three quotes in its text start with an
escaped one and, on one line, the text ends neither with an open quote nor within an escape. A text
without quotes and escapes is always closed. -/
theorem docstring_isClosed_iff (text : String) (h : prepare text ≠ "") :
    (IsClosed (docstring text) ↔
      (∀ front rest, (prepare text).toList = front ++ '"' :: '"' :: '"' :: rest →
        isEscaped front = true) ∧
      ('\n' ∉ (prepare text).toList →
        (∀ front, (prepare text).toList = front ++ ['"'] → isEscaped front = true) ∧
          isEscaped (prepare text).toList = false)) ∧
    ('"' ∉ text.toList → '\\' ∉ text.toList → IsClosed (docstring text)) := by
  rw [docstring_eq h, isClosed_iff]
  constructor
  · rw [isSealed_iff]
    refine and_congr_right fun _ => ⟨fun hend _ => hend, fun hend => ?_⟩
    by_cases hline : '\n' ∈ (prepare text).toList
    · obtain ⟨front, hfront⟩ := exists_concat_of_line hline
      rw [hfront]
      refine ⟨fun other hother => ?_, isEscaped_concat (by decide) front⟩
      have hsame := append_inj_right' hother rfl
      simp at hsame
    · exact hend hline
  · intro hquote hescape
    rw [prepare, String.toList_ofList]
    exact isSealed_of_plain (mt quote_mem_of_prepareChars hquote)
      (mt escape_mem_of_prepareChars hescape)

theorem docstring_isClosed_lines :
    prepare "Return it.\nOr nothing." ≠ "" ∧ IsClosed (docstring "Return it.\nOr nothing.") :=
  have h : prepare "Return it.\nOr nothing." ≠ "" := by decide +kernel
  ⟨h, (docstring_isClosed_iff _ h).2 (by decide) (by decide)⟩

/-- A quote at the end of a line is taken for the first closing one, and an escape there takes that
one away. -/
theorem not_isClosed_at_end :
    ¬ IsClosed (docstring "say \\\"hi\\\"") ∧ ¬ IsClosed (docstring "in C:\\") := by
  have hquote : prepare "say \\\"hi\\\"" = "say \"hi\"" := by decide +kernel
  have hescape : prepare "in C:\\" = "in C:\\" := by decide +kernel
  rw [docstring_eq (by rw [hquote]; decide), hquote, isClosed_iff,
    docstring_eq (by rw [hescape]; decide), hescape, isClosed_iff]
  constructor
  · intro hsealed
    have hopen := (isSealed_iff.1 hsealed).2.1 "say \"hi".toList (by decide)
    exact absurd hopen (by decide)
  · intro hsealed
    exact absurd hsealed.2 (by decide)

end Documentation

end BindingStubs
