import BindingStubs.Proofs.Pattern.Runs
import BindingStubs.Proofs.Text.Names
import Mathlib.Data.List.Chain
import Mathlib.Data.List.Forall2

set_option autoImplicit false

/-!
# Texts with holes for a name

A pattern that takes a name as a whole or not at all runs alike through two texts that differ in the
name only.
-/

namespace BindingStubs.Pattern

open BindingStubs.Text List

abbrev Template := List (Option Char)

namespace Template

def fill (name : List Char) (t : Template) : List Char :=
  t.flatMap fun part => part.elim name fun c => [c]

section
variable {name : List Char} {t : Template}

@[simp] theorem fill_nil : fill name [] = [] := rfl

@[simp] theorem fill_none_cons : fill name (none :: t) = name ++ fill name t := rfl

@[simp] theorem fill_some_cons (c : Char) : fill name (some c :: t) = c :: fill name t := rfl

@[simp] theorem fill_append (t more : Template) :
    fill name (t ++ more) = fill name t ++ fill name more :=
  flatMap_append

@[simp] theorem fill_map_some (cs : List Char) : fill name (cs.map some) = cs := by
  induction cs with
  | nil => rfl
  | cons c cs ih => rw [map_cons, fill_some_cons, ih]

theorem map_some_fill (name : List Char) {t : Template} (h : none ∉ t) :
    (fill name t).map some = t := by
  induction t with
  | nil => rfl
  | cons c t ih =>
    rw [mem_cons, not_or] at h
    cases c with
    | none => exact absurd rfl h.1
    | some c => rw [fill_some_cons, map_cons, ih h.2]

theorem fill_eq_fill (h : none ∉ t) (name' : List Char) : fill name' t = fill name t := by
  conv_lhs => rw [← map_some_fill name h, fill_map_some]

theorem none_notMem_of_free (h : ¬ name <:+: fill name t) : none ∉ t := by
  intro hnone
  refine h ?_
  obtain ⟨before, after, rfl⟩ := append_of_mem hnone
  rw [fill_append, fill_none_cons]
  exact ⟨_, _, append_assoc _ _ _⟩

end

def isWordy (part : Option Char) : Bool := part.elim true isWord

def Apart (a b : Option Char) : Prop :=
  a = none ∨ b = none → isWordy a = false ∨ isWordy b = false

end Template

open Template

/-- A name that consists of word characters and does not start with a digit. -/
structure IsWordName (name : List Char) : Prop where
  ne_nil : name ≠ []
  isWord : ∀ c ∈ name, isWord c = true
  notDecimal : ∀ c ∈ name.head?, isDecimal c = false

variable {name : List Char}

theorem IsWordName.of_check
    (h : (!name.isEmpty && name.all Text.isWord && !name.head?.any isDecimal) = true) :
    IsWordName name := by
  rw [Bool.and_eq_true, Bool.and_eq_true, Bool.not_eq_true', Bool.not_eq_true'] at h
  refine ⟨fun hnil => ?_, all_eq_true.1 h.1.2, fun c hc => ?_⟩
  · rw [hnil] at h
    cases h.1.1
  · rw [Option.mem_def.1 hc] at h
    exact h.2

/-- Two names for the holes of a template that is not part of words with them and does not spell
them out. -/
structure Fits (x y : List Char) (t : Template) : Prop where
  left : IsWordName x
  right : IsWordName y
  apart : t.IsChain Apart
  notSpelled : ¬ x.map some <:+: t
  notSpelled' : ¬ y.map some <:+: t

theorem Fits.before {x y : List Char} {t rest : Template} (h : Fits x y (t ++ rest)) :
    Fits x y t where
  left := h.left
  right := h.right
  apart := h.apart.left_of_append
  notSpelled := fun hx => h.notSpelled (hx.trans (prefix_append t rest).isInfix)
  notSpelled' := fun hy => h.notSpelled' (hy.trans (prefix_append t rest).isInfix)

def SameCaptures (E : Nat → Nat → Prop) (caught caught' : List (Nat × Nat × Nat)) : Prop :=
  List.Forall₂ (fun a b => a.1 = b.1 ∧ E a.2.1 b.2.1 ∧ E a.2.2 b.2.2) caught caught'

section
variable (x y : List Char) (t : Template) (E : Nat → Nat → Prop)

def Aligned (post : Template) (s s' : Spot) : Prop :=
  ∃ pre caught caught', pre ++ post = t ∧ s = .between (fill x pre) (fill x post) caught ∧
    s' = .between (fill y pre) (fill y post) caught' ∧ SameCaptures E caught caught'

/-- Two ways to go on that lead from aligned places to aligned places, if at most `m` parts of the
template are left. -/
def Alike (m : Nat) (next next' : Next) : Prop :=
  ∀ ⦃post s s'⦄, post.length ≤ m → Aligned x y t E post s s' →
    Option.Rel (fun s s' => ∃ post, Aligned x y t E post s s') (next s) (next' s')

def Shuns (name : List Char) (t : Template) (next : Next) : Prop :=
  ∀ ⦃pre post u v⦄, pre ++ none :: post = t → u ++ v = name → u ≠ [] → v ≠ [] →
    ∀ caught, next (.between (fill name pre ++ u) (v ++ fill name post) caught) = none

structure Agree (m : Nat) (next next' : Next) : Prop where
  alike : Alike x y t E m next next'
  shuns : Shuns x t next
  shuns' : Shuns y t next'

end

structure Setting (x y : List Char) (t : Template) (E : Nat → Nat → Prop) : Prop extends
    Fits x y t where
  corresponds : ∀ ⦃pre post⦄, pre ++ post = t → E (fill x pre).length (fill y pre).length

section
variable {x y : List Char} {t : Template} {E : Nat → Nat → Prop} {m : Nat}
  {next next' : Next} {text text' : List Char}

section
variable {pre post : Template} {caught caught' : List (Nat × Nat × Nat)}

theorem aligned_between (hpre : pre ++ post = t) (hcaught : SameCaptures E caught caught') :
    Aligned x y t E post (.between (fill x pre) (fill x post) caught)
      (.between (fill y pre) (fill y post) caught') :=
  ⟨pre, caught, caught', hpre, rfl, rfl, hcaught⟩

theorem aligned_some {c : Char} (hpre : pre ++ some c :: post = t)
    (hcaught : SameCaptures E caught caught') :
    Aligned x y t E post (.between (fill x pre ++ [c]) (fill x post) caught)
      (.between (fill y pre ++ [c]) (fill y post) caught') :=
  ⟨pre ++ [some c], caught, caught', by simpa using hpre, by simp, by simp, hcaught⟩

theorem aligned_map_some {cs : List Char} (hpre : pre ++ (cs.map some ++ post) = t)
    (hcaught : SameCaptures E caught caught') :
    Aligned x y t E post (.between (fill x pre ++ cs) (fill x post) caught)
      (.between (fill y pre ++ cs) (fill y post) caught') :=
  ⟨pre ++ cs.map some, caught, caught', by rw [append_assoc, hpre], by simp, by simp, hcaught⟩

theorem aligned_none (hpre : pre ++ none :: post = t) (hcaught : SameCaptures E caught caught') :
    Aligned x y t E post (.between (fill x pre ++ x) (fill x post) caught)
      (.between (fill y pre ++ y) (fill y post) caught') :=
  ⟨pre ++ [none], caught, caught', by simpa using hpre, by simp, by simp, hcaught⟩

end

theorem rel_or {α : Type} {R : α → α → Prop} {a a' b b' : Option α} (h : Option.Rel R a a')
    (hother : Option.Rel R b b') : Option.Rel R (a.or b) (a'.or b') := by
  cases h with
  | some h => exact .some h
  | none => exact hother

namespace Alike

theorem some : Alike x y t E m some some := fun _ _ _ _ h => .some ⟨_, h⟩

theorem or {other other' : Next} (h : Alike x y t E m next next')
    (hother : Alike x y t E m other other') :
    Alike x y t E m (fun s => (next s).or (other s)) fun s => (next' s).or (other' s) :=
  fun _ _ _ hm hs => rel_or (h hm hs) (hother hm hs)

end Alike

theorem Shuns.or {other : Next} (h : Shuns name t next) (hother : Shuns name t other) :
    Shuns name t fun s => (next s).or (other s) := by
  intro pre post u v hpre huv hu hv caught
  dsimp only
  rw [h hpre huv hu hv, hother hpre huv hu hv]
  rfl

theorem Agree.or {other other' : Next} (h : Agree x y t E m next next')
    (hother : Agree x y t E m other other') :
    Agree x y t E m (fun s => (next s).or (other s)) fun s => (next' s).or (other' s) :=
  ⟨h.alike.or hother.alike, h.shuns.or hother.shuns, h.shuns'.or hother.shuns'⟩

def LeavesWords (cs : CharSet) : Prop := ∀ c, isWord c = true → cs.has c = false

def TakesWords (cs : CharSet) : Prop := ∀ c, isWord c = true → cs.has c = true

section
variable {cs : CharSet} {word before after : List Char} {caught : List (Nat × Nat × Nat)}

theorem LeavesWords.run_set (hcs : LeavesWords cs) (hne : word ≠ [])
    (hword : ∀ c ∈ word, isWord c = true) :
    run text (.set cs) (.between before (word ++ after) caught) next = none := by
  obtain ⟨c, rest, rfl⟩ := exists_cons_of_ne_nil hne
  rw [cons_append, run_set_cons, hcs c (hword c mem_cons_self),
    if_neg Bool.false_ne_true]

theorem LeavesWords.longest (hcs : LeavesWords cs) (hne : word ≠ [])
    (hword : ∀ c ∈ word, isWord c = true) :
    longest cs.has next (.between before (word ++ after) caught) =
      next (.between before (word ++ after) caught) := by
  obtain ⟨c, rest, rfl⟩ := exists_cons_of_ne_nil hne
  rw [cons_append, longest_of_not (hcs c (hword c mem_cons_self))]

end

variable {cs : CharSet}

theorem LeavesWords.shuns_set (hcs : LeavesWords cs) (hname : IsWordName name) (next : Next) :
    Shuns name t (run text (.set cs) · next) :=
  fun _ _ _ _ _ huv _ hv _ => hcs.run_set hv fun c hc =>
    hname.isWord c (huv ▸ mem_append_right _ hc)

theorem LeavesWords.shuns_longest (hcs : LeavesWords cs) (hname : IsWordName name)
    (h : Shuns name t next) : Shuns name t (Pattern.longest cs.has next) := by
  intro pre post u v hpre huv hu hv caught
  have hword : ∀ c ∈ v, isWord c = true := fun c hc =>
    hname.isWord c (huv ▸ mem_append_right _ hc)
  rw [hcs.longest hv hword]
  exact h hpre huv hu hv caught

namespace Setting

theorem alike_set (hT : Setting x y t E) (hcs : LeavesWords cs) (h : Alike x y t E m next next') :
    Alike x y t E m (run text (.set cs) · next) (run text' (.set cs) · next') := by
  rintro (_ | ⟨_ | c, post⟩) s s' hm ⟨pre, caught, caught', hpre, rfl, rfl, hcaught⟩
  · exact .none
  · dsimp only
    rw [fill_none_cons, fill_none_cons, hcs.run_set hT.left.ne_nil hT.left.isWord,
      hcs.run_set hT.right.ne_nil hT.right.isWord]
    exact .none
  · dsimp only
    rw [fill_some_cons, fill_some_cons, run_set_cons, run_set_cons]
    split_ifs
    · exact h (Nat.le_of_succ_le hm) (aligned_some hpre hcaught)
    · exact .none

theorem agree_set (hT : Setting x y t E) (hcs : LeavesWords cs) (h : Alike x y t E m next next') :
    Agree x y t E m (run text (.set cs) · next) (run text' (.set cs) · next') :=
  ⟨hT.alike_set hcs h, hcs.shuns_set hT.left next, hcs.shuns_set hT.right next'⟩

theorem alike_longest (hT : Setting x y t E)
    (hcs : LeavesWords cs ∨ TakesWords cs ∧ Shuns x t next ∧ Shuns y t next')
    (h : Alike x y t E m next next') :
    Alike x y t E m (longest cs.has next) (longest cs.has next') := by
  intro post
  -- on the part of the template that is left: each part is passed over as a whole or not at all
  induction post with
  | nil =>
    rintro s s' hm ⟨pre, caught, caught', hpre, rfl, rfl, hcaught⟩
    rw [fill_nil, fill_nil, longest_nil, longest_nil]
    exact h hm (aligned_between hpre hcaught)
  | cons part post ih =>
    rintro s s' hm ⟨pre, caught, caught', hpre, rfl, rfl, hcaught⟩
    have hhere := h hm (aligned_between hpre hcaught)
    cases part with
    | none =>
      rw [fill_none_cons, fill_none_cons] at hhere ⊢
      rcases hcs with hcs | ⟨hcs, hshuns, hshuns'⟩
      · rw [hcs.longest hT.left.ne_nil hT.left.isWord, hcs.longest hT.right.ne_nil hT.right.isWord]
        exact hhere
      · rw [longest_append hT.left.ne_nil (fun c hc => hcs c (hT.left.isWord c hc))
            fun u v huv hu hv => hshuns hpre huv hu hv caught,
          longest_append hT.right.ne_nil (fun c hc => hcs c (hT.right.isWord c hc))
            fun u v huv hu hv => hshuns' hpre huv hu hv caught']
        exact rel_or (ih (Nat.le_of_succ_le hm) (aligned_none hpre hcaught)) hhere
    | some c =>
      rw [fill_some_cons, fill_some_cons] at hhere ⊢
      cases hc : cs.has c with
      | true =>
        rw [longest_of_has hc, longest_of_has hc]
        exact rel_or (ih (Nat.le_of_succ_le hm) (aligned_some hpre hcaught)) hhere
      | false =>
        rw [longest_of_not hc, longest_of_not hc]
        exact hhere

theorem alike_takes (hT : Setting x y t E) (hcs : TakesWords cs) (h : Agree x y t E m next next') :
    Alike x y t E m (longest cs.has next) (longest cs.has next') :=
  hT.alike_longest (.inr ⟨hcs, h.shuns, h.shuns'⟩) h.alike

theorem agree_longest (hT : Setting x y t E) (hcs : LeavesWords cs)
    (h : Agree x y t E m next next') :
    Agree x y t E m (longest cs.has next) (longest cs.has next') :=
  ⟨hT.alike_longest (.inl hcs) h.alike, hcs.shuns_longest hT.left h.shuns,
    hcs.shuns_longest hT.right h.shuns'⟩

end Setting

theorem Shuns.longest (h : Shuns name t next) (hname : IsWordName name) (hcs : TakesWords cs)
    {pre post : Template} (hpre : pre ++ none :: post = t) {u v : List Char} (huv : u ++ v = name)
    (hu : u ≠ []) (caught : List (Nat × Nat × Nat)) :
    Pattern.longest cs.has next (.between (fill name pre ++ u) (v ++ fill name post) caught) =
      Pattern.longest cs.has next (.between (fill name pre ++ name) (fill name post) caught) := by
  have hbefore : fill name pre ++ name = fill name pre ++ u ++ v := by rw [append_assoc, huv]
  rw [hbefore]
  by_cases hv : v = []
  · rw [hv, nil_append, append_nil]
  · have htakes : ∀ c ∈ v, cs.has c = true := fun c hc =>
      hcs c (hname.isWord c (huv ▸ mem_append_right u hc))
    rw [longest_append hv htakes, h hpre huv hu hv, Option.or_none]
    intro w rest hw _ hrest
    rw [append_assoc]
    exact h hpre (by rw [append_assoc, hw, huv]) (append_ne_nil_of_left_ne_nil hu w) hrest
      caught

theorem run_set_name {start cs : CharSet} (hname : IsWordName name)
    (hstart : ∀ c ∈ name.head?, start.has c = true) (hcs : TakesWords cs) (h : Shuns name t next)
    {pre post : Template} (hpre : pre ++ none :: post = t) (caught : List (Nat × Nat × Nat)) :
    run text (.set start) (.between (fill name pre) (name ++ fill name post) caught)
        (longest cs.has next) =
      longest cs.has next (.between (fill name pre ++ name) (fill name post) caught) := by
  obtain ⟨c, rest, hrest⟩ := exists_cons_of_ne_nil hname.ne_nil
  have hfirst : start.has c = true := hstart c (by rw [hrest]; rfl)
  have happend : name ++ fill name post = c :: (rest ++ fill name post) := by
    nth_rewrite 1 [hrest]
    rfl
  rw [happend, run_set_cons, hfirst, if_pos rfl]
  exact h.longest hname hcs hpre hrest.symm (cons_ne_nil c []) caught

namespace Setting

theorem alike_start (hT : Setting x y t E) {start cs : CharSet}
    (hstart : ∀ c ∈ x.head?, start.has c = true) (hstart' : ∀ c ∈ y.head?, start.has c = true)
    (hcs : TakesWords cs) (h : Agree x y t E m next next') :
    Alike x y t E m (run text (.set start) · (longest cs.has next))
      (run text' (.set start) · (longest cs.has next')) := by
  have hrest : Alike x y t E m (longest cs.has next) (longest cs.has next') := hT.alike_takes hcs h
  rintro (_ | ⟨_ | c, post⟩) s s' hm ⟨pre, caught, caught', hpre, rfl, rfl, hcaught⟩
  · exact .none
  · dsimp only
    rw [fill_none_cons, fill_none_cons, run_set_name hT.left hstart hcs h.shuns hpre,
      run_set_name hT.right hstart' hcs h.shuns' hpre]
    exact hrest (Nat.le_of_succ_le hm) (aligned_none hpre hcaught)
  · dsimp only
    rw [fill_some_cons, fill_some_cons, run_set_cons, run_set_cons]
    split_ifs
    · exact hrest (Nat.le_of_succ_le hm) (aligned_some hpre hcaught)
    · exact .none

end Setting

section
variable {name : List Char} {has : Char → Bool} {onWords : Bool}

theorem any_head?_fill (hname : IsWordName name) (hhas : ∀ c, isWord c = true → has c = onWords)
    (t : Template) :
    (fill name t).head?.any has = t.head?.any fun part => part.elim onWords has := by
  rcases t with _ | ⟨_ | c, t⟩
  · rfl
  · obtain ⟨c, rest, rfl⟩ := exists_cons_of_ne_nil hname.ne_nil
    exact hhas c (hname.isWord c mem_cons_self)
  · rfl

theorem any_getLast?_fill (hname : IsWordName name) (hhas : ∀ c, isWord c = true → has c = onWords)
    (t : Template) :
    (fill name t).getLast?.any has = t.getLast?.any fun part => part.elim onWords has := by
  rcases eq_nil_or_concat' t with rfl | ⟨t, _ | c, rfl⟩
  · rfl
  · have hlast := hname.isWord _ (getLast_mem hname.ne_nil)
    rw [fill_append, fill_none_cons, fill_nil, append_nil, getLast?_append_of_ne_nil _
      hname.ne_nil, getLast?_eq_some_getLast hname.ne_nil, getLast?_concat]
    exact hhas _ hlast
  · rw [fill_append, fill_some_cons, fill_nil, getLast?_concat, getLast?_concat]
    rfl

theorem isEmpty_fill (hname : IsWordName name) (t : Template) :
    (fill name t).isEmpty = t.isEmpty := by
  rcases t with _ | ⟨_ | c, t⟩
  · rfl
  · obtain ⟨c, rest, rfl⟩ := exists_cons_of_ne_nil hname.ne_nil
    rfl
  · rfl

end

theorem getLast?_append_word {name u v : List Char} (hname : IsWordName name) (huv : u ++ v = name)
    (hu : u ≠ []) (before : List Char) :
    ∃ c, isWord c = true ∧ (before ++ u).getLast? = some c := by
  refine ⟨u.getLast hu, hname.isWord _ (huv ▸ mem_append_left v (getLast_mem hu)), ?_⟩
  rw [getLast?_append_of_ne_nil _ hu, getLast?_eq_some_getLast hu]

theorem head?_word_append {name u v : List Char} (hname : IsWordName name) (huv : u ++ v = name)
    (hv : v ≠ []) (after : List Char) : ∃ c, isWord c = true ∧ (v ++ after).head? = some c := by
  obtain ⟨c, rest, rfl⟩ := exists_cons_of_ne_nil hv
  exact ⟨c, hname.isWord c (huv ▸ mem_append_right u mem_cons_self), rfl⟩

theorem shuns_wordEdge (hname : IsWordName name) (next : Next) :
    Shuns name t (run text (.wordEdge false true) · next) := by
  intro pre post u v _ huv hu hv caught
  obtain ⟨c, hc, hlast⟩ := getLast?_append_word hname huv hu (fill name pre)
  obtain ⟨d, hd, hhead⟩ := head?_word_append hname huv hv (fill name post)
  dsimp only
  rw [run, Spot.isWordEdge_between, hlast, hhead, Option.any_some, Option.any_some, hc, hd,
    bne_self_eq_false, show (false == true) = false from rfl, Bool.and_false,
    if_neg Bool.false_ne_true]

theorem LeavesWords.shuns_behind (hcs : LeavesWords cs) (hname : IsWordName name)
    (h : Shuns name t next) : Shuns name t (run text (.behind false 1 (.set cs)) · next) := by
  intro pre post u v hpre huv hu hv caught
  obtain ⟨c, hc, hlast⟩ := getLast?_append_word hname huv hu (fill name pre)
  dsimp only
  rw [run_behind_set, hlast, Option.any_some, hcs c hc, if_neg Bool.false_ne_true]
  exact h hpre huv hu hv caught

namespace Setting

section
variable (hT : Setting x y t E)
include hT

theorem isWordEdge_eq {pre post : Template}
    (caught caught' : List (Nat × Nat × Nat)) (wanted : Bool) :
    (Spot.between (fill x pre) (fill x post) caught).isWordEdge false wanted =
      (Spot.between (fill y pre) (fill y post) caught').isWordEdge false wanted := by
  have hword : ∀ c, isWord c = true → isWord c = true := fun _ h => h
  rw [Spot.isWordEdge_between, Spot.isWordEdge_between, isEmpty_fill hT.left, isEmpty_fill hT.left,
    isEmpty_fill hT.right, isEmpty_fill hT.right, any_getLast?_fill hT.left hword,
    any_getLast?_fill hT.right hword, any_head?_fill hT.left hword, any_head?_fill hT.right hword]

theorem alike_wordEdge (h : Alike x y t E m next next') :
    Alike x y t E m (run text (.wordEdge false true) · next)
      (run text' (.wordEdge false true) · next') := by
  rintro post s s' hm ⟨pre, caught, caught', hpre, rfl, rfl, hcaught⟩
  dsimp only
  rw [run, run, hT.isWordEdge_eq caught caught']
  split_ifs
  · exact h hm (aligned_between hpre hcaught)
  · exact .none

theorem agree_wordEdge (h : Alike x y t E m next next') :
    Agree x y t E m (run text (.wordEdge false true) · next)
      (run text' (.wordEdge false true) · next') :=
  ⟨hT.alike_wordEdge h, shuns_wordEdge hT.left next, shuns_wordEdge hT.right next'⟩

theorem alike_behind (hcs : LeavesWords cs)
    (h : Alike x y t E m next next') :
    Alike x y t E m (run text (.behind false 1 (.set cs)) · next)
      (run text' (.behind false 1 (.set cs)) · next') := by
  rintro post s s' hm ⟨pre, caught, caught', hpre, rfl, rfl, hcaught⟩
  dsimp only
  rw [run_behind_set, run_behind_set, any_getLast?_fill hT.left hcs, any_getLast?_fill hT.right hcs]
  split_ifs
  · exact .none
  · exact h hm (aligned_between hpre hcaught)

theorem agree_behind (hcs : LeavesWords cs)
    (h : Agree x y t E m next next') :
    Agree x y t E m (run text (.behind false 1 (.set cs)) · next)
      (run text' (.behind false 1 (.set cs)) · next') :=
  ⟨hT.alike_behind hcs h.alike, hcs.shuns_behind hT.left h.shuns,
    hcs.shuns_behind hT.right h.shuns'⟩

theorem alike_hold {index p p' : Nat} (hp : E p p')
    (h : Alike x y t E m next next') :
    Alike x y t E m (fun s => next (s.hold index p)) fun s => next' (s.hold index p') := by
  rintro post s s' hm ⟨pre, caught, caught', hpre, rfl, rfl, hcaught⟩
  refine h hm (aligned_between hpre (.cons ⟨rfl, hp, hT.corresponds hpre⟩ ?_))
  refine rel_filter ?_ hcaught
  intro a b hab
  dsimp only
  rw [hab.1]

end

end Setting

theorem Shuns.hold (h : Shuns name t next) (index p : Nat) :
    Shuns name t fun s => next (s.hold index p) :=
  fun _ _ _ _ hpre huv hu hv _ => h hpre huv hu hv _

theorem Setting.agree_hold (hT : Setting x y t E) {index p p' : Nat} (hp : E p p')
    (h : Agree x y t E m next next') :
    Agree x y t E m (fun s => next (s.hold index p)) fun s => next' (s.hold index p') :=
  ⟨hT.alike_hold hp h.alike, h.shuns.hold index p, h.shuns'.hold index p'⟩

theorem Setting.alike_capture (hT : Setting x y t E) {index : Nat} {body body' : Node}
    (h : ∀ p p', E p p' → Alike x y t E m
      (run text body · fun s => next (s.hold index p))
      (run text' body' · fun s => next' (s.hold index p'))) :
    Alike x y t E m (run text (.capture index body) · next)
      (run text' (.capture index body') · next') := by
  rintro post s s' hm ⟨pre, caught, caught', hpre, rfl, rfl, hcaught⟩
  exact h _ _ (hT.corresponds hpre) hm (aligned_between hpre hcaught)

theorem Alike.atomic {body body' : Node}
    (hbody : Alike x y t E m (run text body · Option.some) (run text' body' · Option.some))
    (h : ∀ m, Alike x y t E m next next') :
    Alike x y t E m (run text (.atomic body) · next) (run text' (.atomic body') · next') := by
  intro post s s' hm hs
  have hfound := hbody hm hs
  dsimp only at hfound ⊢
  rw [run_atomic, run_atomic]
  revert hfound
  generalize run text body s Option.some = found
  generalize run text' body' s' Option.some = found'
  rintro (⟨rest, hrest⟩ | _)
  · exact h _ (Nat.le_refl _) hrest
  · exact .none

section
variable {name : List Char} {pre pre' post post' : Template}

theorem length_fill_lt_iff (hname : IsWordName name) (h : pre ++ post = t) (h' : pre' ++ post' = t) :
    (fill name pre).length < (fill name pre').length ↔ post'.length < post.length := by
  have hpos : ∀ t, 0 < (fill name t).length ↔ 0 < t.length := by
    intro t
    have hempty := isEmpty_fill hname t
    rw [Bool.eq_iff_iff, List.isEmpty_iff, List.isEmpty_iff] at hempty
    rw [length_pos_iff, length_pos_iff, ne_eq, ne_eq, hempty]
  rcases append_eq_append_iff.1 (h.trans h'.symm) with ⟨more, rfl, rfl⟩ | ⟨more, rfl, rfl⟩
  · have hmore := hpos more
    rw [fill_append, length_append, length_append]
    omega
  · rw [fill_append, length_append, length_append]
    omega

theorem length_fill_beq (hname : IsWordName name) (h : pre ++ post = t) (h' : pre' ++ post' = t) :
    ((fill name pre').length == (fill name pre).length) = (post'.length == post.length) := by
  have hlt := length_fill_lt_iff hname h h'
  have hgt := length_fill_lt_iff hname h' h
  rw [Bool.eq_iff_iff, beq_iff_eq, beq_iff_eq]
  omega

theorem Setting.place_beq (hT : Setting x y t E) {s s' r r' : Spot}
    (hs : Aligned x y t E post s s') (hr : Aligned x y t E post' r r') :
    (r.place == s.place) = (post'.length == post.length) ∧
      (r'.place == s'.place) = (post'.length == post.length) := by
  obtain ⟨pre, caught, caught', hpre, rfl, rfl, -⟩ := hs
  obtain ⟨pre', kept, kept', hpre', rfl, rfl, -⟩ := hr
  exact ⟨length_fill_beq hT.left hpre hpre', length_fill_beq hT.right hpre hpre'⟩

theorem length_le_length_fill (hname : IsWordName name) (t : Template) :
    t.length ≤ (fill name t).length := by
  have hpos := length_pos_iff.2 hname.ne_nil
  induction t with
  | nil => exact Nat.le_refl 0
  | cons part t ih =>
    cases part with
    | none =>
      rw [fill_none_cons, length_append, length_cons]
      omega
    | some c =>
      rw [fill_some_cons, length_cons, length_cons]
      omega

end

section
variable {go go' : Spot → Next → Option Spot}

theorem shuns_manyOf (hgo : ∀ next, Shuns name t (go · next)) (h : Shuns name t next) (fuel : Nat) :
    Shuns name t (manyOf go fuel none · next) := by
  intro pre post u v hpre huv hu hv caught
  cases fuel with
  | zero => exact h hpre huv hu hv caught
  | succ fuel =>
    dsimp only
    rw [manyOf_succ, Option.or_eq_none_iff]
    exact ⟨hgo _ hpre huv hu hv caught, h hpre huv hu hv caught⟩

theorem shuns_round (hgo : ∀ next, Shuns name t (go · next)) (h : Shuns name t next)
    (fuel place : Nat) :
    Shuns name t fun s => if s.place == place then next s else manyOf go fuel none s next := by
  intro pre post u v hpre huv hu hv caught
  dsimp only
  split_ifs
  · exact h hpre huv hu hv caught
  · exact shuns_manyOf hgo h fuel hpre huv hu hv caught

/-- Enough rounds of a part from aligned places. The numbers of characters that are left may
differ, but each round takes the same parts of the template. -/
theorem Setting.rel_manyOf (hT : Setting x y t E)
    (hgo : ∀ {m : Nat} {next next' : Next}, Agree x y t E m next next' →
      Alike x y t E m (go · next) (go' · next'))
    (hshuns : ∀ next, Shuns x t (go · next)) (hshuns' : ∀ next, Shuns y t (go' · next))
    (h : Agree x y t E m next next') {post : Template} {s s' : Spot} (hm : post.length ≤ m)
    (hs : Aligned x y t E post s s') {fuel fuel' : Nat} (hfuel : post.length < fuel)
    (hfuel' : post.length < fuel') :
    Option.Rel (fun s s' => ∃ post, Aligned x y t E post s s') (manyOf go fuel none s next)
      (manyOf go' fuel' none s' next') := by
  -- both counts of rounds stay above the parts of the template that are left, so neither text runs
  -- out of rounds before the other
  induction fuel generalizing fuel' post s s' with
  | zero => exact absurd hfuel (Nat.not_lt_zero _)
  | succ fuel ih =>
    obtain ⟨fuel', rfl⟩ := Nat.exists_eq_succ_of_ne_zero (Nat.ne_of_gt (Nat.zero_lt_of_lt hfuel'))
    rw [Nat.succ_eq_add_one, manyOf_succ, manyOf_succ]
    refine rel_or (hgo (m := post.length) ⟨?_, ?_, ?_⟩ (Nat.le_refl _) hs) (h.alike hm hs)
    · intro rest r r' hrest hr
      dsimp only
      rw [(hT.place_beq hs hr).1, (hT.place_beq hs hr).2]
      split_ifs with heq
      · exact h.alike (hrest.trans hm) hr
      · have hlt : rest.length < post.length := by
          rw [beq_iff_eq] at heq
          omega
        exact ih (hrest.trans hm) hr (by omega) (by omega)
    · exact shuns_round hshuns h.shuns fuel s.place
    · exact shuns_round hshuns' h.shuns' fuel' s'.place

theorem Setting.agree_rounds (hT : Setting x y t E) {body body' : Node}
    (hbody : ∀ cs, body ≠ .set cs) (hbody' : ∀ cs, body' ≠ .set cs)
    (hgo : ∀ {m : Nat} {next next' : Next}, Agree x y t E m next next' →
      Alike x y t E m (run text body · next) (run text' body' · next'))
    (hshuns : ∀ next, Shuns x t (run text body · next))
    (hshuns' : ∀ next, Shuns y t (run text' body' · next)) (h : Agree x y t E m next next') :
    Agree x y t E m (run text (.rounds body 0 none .most) · next)
      (run text' (.rounds body' 0 none .most) · next') where
  alike := by
    intro post s s' hm hs
    dsimp only
    rw [run_rounds_of_ne hbody, run_rounds_of_ne hbody']
    have hleft : ∀ {name : List Char}, IsWordName name → post.length < (fill name post).length + 1 :=
      fun hname => Nat.lt_succ_of_le (length_le_length_fill hname post)
    refine hT.rel_manyOf hgo hshuns hshuns' h hm hs ?_ ?_
    · obtain ⟨pre, caught, caught', -, rfl, -, -⟩ := hs
      exact hleft hT.left
    · obtain ⟨pre, caught, caught', -, -, rfl, -⟩ := hs
      exact hleft hT.right
  shuns := by
    intro pre post u v hpre huv hu hv caught
    dsimp only
    rw [run_rounds_of_ne hbody]
    exact shuns_manyOf hshuns h.shuns _ hpre huv hu hv caught
  shuns' := by
    intro pre post u v hpre huv hu hv caught
    dsimp only
    rw [run_rounds_of_ne hbody']
    exact shuns_manyOf hshuns' h.shuns' _ hpre huv hu hv caught

end

end

end BindingStubs.Pattern
