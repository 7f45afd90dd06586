import BindingStubs.Source.Call
import Mathlib.Data.List.Basic

set_option autoImplicit false

/-! # Where a block ends -/

namespace BindingStubs.Source

open List

def countSeen (c : Char) (seen : List (Nat × Char)) : Nat := (seen.map Prod.snd).count c

@[simp]
theorem countSeen_nil (c : Char) : countSeen c [] = 0 := rfl

theorem countSeen_cons (c : Char) (x : Nat × Char) (seen : List (Nat × Char)) :
    countSeen c (x :: seen) = countSeen c seen + if x.2 = c then 1 else 0 := by
  simp [countSeen, count_cons]

/-- A closing bracket after `before` balances the brackets, if `depth` of them were open. -/
def Balances (opening closing : Char) (depth : Int) (before : List (Nat × Char)) : Prop :=
  depth + countSeen opening before = countSeen closing before + 1

instance (opening closing : Char) (depth : Int) (before : List (Nat × Char)) :
    Decidable (Balances opening closing depth before) :=
  inferInstanceAs (Decidable (_ = _))

/-- No closing bracket of a stretch balances the brackets before it. -/
def StaysOpen (opening closing : Char) (depth : Int) (seen : List (Nat × Char)) : Prop :=
  ∀ before i after, seen = before ++ (i, closing) :: after →
    ¬ Balances opening closing depth before

variable {seen : List (Nat × Char)} {depth : Int}

theorem staysOpen_iff_take {opening closing : Char} :
    StaysOpen opening closing depth seen ↔ ∀ k, (h : k < seen.length) → seen[k].2 = closing →
      ¬ Balances opening closing depth (seen.take k) := by
  constructor
  · intro h k hk hclosing
    refine h (seen.take k) seen[k].1 (seen.drop (k + 1)) ?_
    rw [← hclosing, ← drop_eq_getElem_cons hk, take_append_drop]
  · rintro h before i after rfl
    have hbefore := h before.length (by simp)
    rw [take_left] at hbefore
    exact hbefore (by simp)

instance (opening closing : Char) (depth : Int) (seen : List (Nat × Char)) :
    Decidable (StaysOpen opening closing depth seen) :=
  decidable_of_iff _ staysOpen_iff_take.symm

/-- The block ends with the closing bracket at `place`, the first one that balances the brackets
before it. -/
def Closes (opening closing : Char) (seen : List (Nat × Char)) (place : Nat) : Prop :=
  ∃ before after, seen = before ++ (place, closing) :: after ∧
    Balances opening closing 0 before ∧ StaysOpen opening closing 0 before

section
variable {opening closing : Char}

/-- The depth at which a scan goes on after a character that does not end the block. -/
def depthAfter (opening closing : Char) (depth : Int) (c : Char) : Int :=
  if c = opening then depth + 1 else if c = closing then depth - 1 else depth

theorem balances_cons (hne : opening ≠ closing) (depth : Int) (x : Nat × Char)
    (before : List (Nat × Char)) :
    Balances opening closing depth (x :: before) ↔
      Balances opening closing (depthAfter opening closing depth x.2) before := by
  rw [Balances, Balances, countSeen_cons, countSeen_cons, depthAfter]
  by_cases hopening : x.2 = opening
  · rw [if_pos hopening, if_neg (fun h => hne (hopening.symm.trans h)), if_pos hopening]
    omega
  · by_cases hclosing : x.2 = closing
    · rw [if_neg hopening, if_pos hclosing, if_neg hopening, if_pos hclosing]
      omega
    · simp only [if_neg hopening, if_neg hclosing]
      omega

theorem staysOpen_cons (hne : opening ≠ closing) (depth : Int) (x : Nat × Char)
    (seen : List (Nat × Char)) :
    StaysOpen opening closing depth (x :: seen) ↔
      ¬ (x.2 = closing ∧ depth = 1) ∧
        StaysOpen opening closing (depthAfter opening closing depth x.2) seen := by
  constructor
  · intro h
    constructor
    · rintro ⟨hclosing, hdepth⟩
      refine h [] x.1 seen (by rw [← hclosing]; rfl) ?_
      simp [Balances, hdepth]
    · intro before i after hseen hbalances
      exact h (x :: before) i after (by rw [hseen]; rfl) ((balances_cons hne _ _ _).2 hbalances)
  · rintro ⟨hfirst, hrest⟩ before i after hseen hbalances
    cases before with
    | nil =>
      cases hseen
      exact hfirst ⟨rfl, by simpa [Balances] using hbalances⟩
    | cons y before =>
      obtain ⟨rfl, htail⟩ := cons_eq_cons.1 hseen
      exact hrest before i after htail ((balances_cons hne _ _ _).1 hbalances)

theorem blockEnd_cons (depth : Int) (last : Nat) (x : Nat × Char) (seen : List (Nat × Char))
    (hne : opening ≠ closing) :
    blockEnd opening closing depth last (x :: seen) =
      if x.2 = closing ∧ depth = 1 then x.1
      else blockEnd opening closing (depthAfter opening closing depth x.2) x.1 seen := by
  obtain ⟨i, c⟩ := x
  rw [blockEnd, depthAfter]
  by_cases hopening : c = opening
  · have hclosing : c ≠ closing := fun h => hne (hopening.symm.trans h)
    simp [hopening, hne]
  · by_cases hclosing : c = closing
    · have hiff : depth - 1 = 0 ↔ depth = 1 := by omega
      simp [hclosing, hne.symm, hiff]
    · simp [hopening, hclosing]

variable {before : List (Nat × Char)}

theorem blockEnd_append (hne : opening ≠ closing) (hopen : StaysOpen opening closing depth before)
    (last : Nat) (rest : List (Nat × Char)) :
    blockEnd opening closing depth last (before ++ rest) =
      blockEnd opening closing (before.foldl (fun d x => depthAfter opening closing d x.2) depth)
        ((before.getLast?.map Prod.fst).getD last) rest := by
  induction before generalizing depth last with
  | nil => rfl
  | cons x before ih =>
    rw [staysOpen_cons hne] at hopen
    rw [cons_append, blockEnd_cons _ _ _ _ hne, if_neg hopen.1, ih hopen.2,
      getLast?_cons]
    cases before.getLast? <;> rfl

theorem balances_foldl (hne : opening ≠ closing) :
    Balances opening closing depth before ↔
      before.foldl (fun d x => depthAfter opening closing d x.2) depth = 1 := by
  induction before generalizing depth with
  | nil => simp [Balances]
  | cons x before ih => rw [balances_cons hne, ih, foldl_cons]

theorem blockEnd_of_closes (hne : opening ≠ closing) {place : Nat}
    (h : Closes opening closing seen place) (last : Nat) :
    blockEnd opening closing 0 last seen = place := by
  obtain ⟨before, after, rfl, hbalances, hopen⟩ := h
  rw [blockEnd_append hne hopen, blockEnd_cons _ _ _ _ hne,
    if_pos ⟨rfl, (balances_foldl hne).1 hbalances⟩]

theorem exists_of_not_staysOpen (hne : opening ≠ closing)
    (h : ¬ StaysOpen opening closing depth seen) :
    ∃ before i after, seen = before ++ (i, closing) :: after ∧
      Balances opening closing depth before ∧ StaysOpen opening closing depth before := by
  induction seen generalizing depth with
  | nil =>
    refine absurd (fun before i after heq => ?_) h
    simp at heq
  | cons x seen ih =>
    by_cases hfirst : x.2 = closing ∧ depth = 1
    · refine ⟨[], x.1, seen, by rw [← hfirst.1]; rfl, by simp [Balances, hfirst.2], ?_⟩
      intro before i after heq
      simp at heq
    · rw [staysOpen_cons hne, not_and] at h
      obtain ⟨before, i, after, rfl, hbalances, hopen⟩ := ih (h hfirst)
      exact ⟨x :: before, i, after, rfl, (balances_cons hne _ _ _).2 hbalances,
        (staysOpen_cons hne _ _ _).2 ⟨hfirst, hopen⟩⟩

theorem blockEnd_mem (hne : opening ≠ closing) (depth : Int) (last : Nat) (h : seen ≠ []) :
    ∃ x ∈ seen, blockEnd opening closing depth last seen = x.1 := by
  induction seen generalizing depth last with
  | nil => exact absurd rfl h
  | cons x seen ih =>
    rw [blockEnd_cons _ _ _ _ hne]
    split
    · exact ⟨x, mem_cons_self, rfl⟩
    · cases seen with
      | nil => exact ⟨x, mem_cons_self, rfl⟩
      | cons y seen =>
        obtain ⟨z, hz, hend⟩ := ih (depthAfter opening closing depth x.2) x.1 (cons_ne_nil _ _)
        exact ⟨z, mem_cons_of_mem _ hz, hend⟩

def brackets (opening closing : Char) (seen : List (Nat × Char)) : List (Nat × Char) :=
  seen.filter fun x => x.2 == opening || x.2 == closing

theorem brackets_append (seen rest : List (Nat × Char)) :
    brackets opening closing (seen ++ rest) =
      brackets opening closing seen ++ brackets opening closing rest :=
  filter_append seen rest

theorem brackets_cons_closing (i : Nat) (seen : List (Nat × Char)) :
    brackets opening closing ((i, closing) :: seen) =
      (i, closing) :: brackets opening closing seen := by
  simp [brackets]

theorem balances_brackets :
    Balances opening closing depth (brackets opening closing before) ↔
      Balances opening closing depth before := by
  have hcount : ∀ c, (c = opening ∨ c = closing) →
      countSeen c (brackets opening closing before) = countSeen c before := by
    intro c hc
    induction before with
    | nil => rfl
    | cons x before ih =>
      rw [brackets, filter_cons, countSeen_cons]
      split
      · rw [countSeen_cons]
        exact congrArg (· + _) ih
      · next hx =>
        have hne : x.2 ≠ c := by
          rintro rfl
          exact hx (by simpa using hc)
        rw [if_neg hne]
        exact ih
  rw [Balances, Balances, hcount opening (.inl rfl), hcount closing (.inr rfl)]

theorem exists_of_brackets_eq {seen before after : List (Nat × Char)} {i : Nat}
    (h : brackets opening closing seen = before ++ (i, closing) :: after) :
    ∃ front rest, seen = front ++ (i, closing) :: rest ∧ brackets opening closing front = before := by
  obtain ⟨front, back, rfl, hfront, hback⟩ := filter_eq_append_iff.1 h
  obtain ⟨skipped, rest, rfl, hskipped, -, -⟩ := filter_eq_cons_iff.1 hback
  refine ⟨front ++ skipped, rest, (append_assoc _ _ _).symm, ?_⟩
  rw [brackets, filter_append, filter_eq_nil_iff.2 hskipped, append_nil, hfront]

theorem closes_brackets {place : Nat} :
    Closes opening closing (brackets opening closing seen) place ↔
      Closes opening closing seen place := by
  constructor
  · rintro ⟨before, after, hseen, hbalances, hopen⟩
    obtain ⟨front, rest, rfl, rfl⟩ := exists_of_brackets_eq hseen
    refine ⟨front, rest, rfl, balances_brackets.1 hbalances, ?_⟩
    intro b i a hsplit hb
    refine hopen (brackets opening closing b) i (brackets opening closing a) ?_
      (balances_brackets.2 hb)
    rw [hsplit, brackets_append, brackets_cons_closing]
  · rintro ⟨before, after, rfl, hbalances, hopen⟩
    refine ⟨brackets opening closing before, brackets opening closing after, ?_,
      balances_brackets.2 hbalances, ?_⟩
    · rw [brackets_append, brackets_cons_closing]
    · intro b i a hsplit hb
      obtain ⟨front, rest, rfl, rfl⟩ := exists_of_brackets_eq hsplit
      exact hopen front i rest rfl (balances_brackets.1 hb)

end

theorem firstBranches_sublist (b : Branches) (start : Nat) (cs : List Char) :
    (firstBranches b start cs).Sublist (positioned start cs) := by
  induction cs generalizing b start with
  | nil => exact .slnil
  | cons c cs ih =>
    rw [firstBranches, positioned]
    split
    · exact (ih _ _).cons_cons _
    · exact (ih _ _).cons _

theorem le_of_mem_positioned {start : Nat} {cs : List Char} {x : Nat × Char}
    (h : x ∈ positioned start cs) : start ≤ x.1 ∧ x.1 < start + cs.length := by
  induction cs generalizing start with
  | nil => cases h
  | cons c cs ih =>
    rw [length_cons]
    rcases mem_cons.1 h with rfl | h
    · dsimp only
      omega
    · have := ih h
      omega

theorem positioned_append (start : Nat) (cs ds : List Char) :
    positioned start (cs ++ ds) = positioned start cs ++ positioned (start + cs.length) ds := by
  induction cs generalizing start with
  | nil => rfl
  | cons c cs ih =>
    rw [cons_append, positioned, positioned, ih, length_cons, cons_append,
      Nat.add_assoc, Nat.add_comm 1]

theorem charactersSeen_sublist (text : List Char) (start : Nat) :
    (charactersSeen text start).Sublist (positioned start (text.drop start)) := by
  rw [charactersSeen]
  split
  · exact firstBranches_sublist _ _ _
  · exact List.Sublist.refl _

theorem positioned_pairwise (start : Nat) (cs : List Char) :
    (positioned start cs).Pairwise (fun x y => x.1 < y.1) := by
  induction cs generalizing start with
  | nil => exact .nil
  | cons c cs ih =>
    exact .cons (fun x hx => Nat.lt_of_succ_le (le_of_mem_positioned hx).1) (ih _)

theorem filter_append_filter (h : seen.Pairwise (fun x y => x.1 < y.1)) (place : Nat) :
    seen.filter (·.1 < place) ++ seen.filter (place ≤ ·.1) = seen := by
  induction h with
  | nil => rfl
  | @cons x seen hx _ ih =>
    by_cases hplace : x.1 < place
    · rw [filter_cons_of_pos (by simpa using hplace),
        filter_cons_of_neg (by simpa using hplace), cons_append, ih]
    · have hnone : seen.filter (·.1 < place) = [] := by
        rw [filter_eq_nil_iff]
        intro y hy
        have := hx y hy
        simp only [decide_eq_true_eq]
        omega
      rw [hnone, nil_append] at ih
      rw [filter_cons_of_neg (by simpa using hplace), hnone, nil_append,
        filter_cons_of_pos (by simpa using hplace), ih]

theorem le_blockEnd_iff {opening closing : Char} (hne : opening ≠ closing)
    (hsorted : seen.Pairwise (fun x y => x.1 < y.1)) (hseen : seen ≠ []) (place last : Nat) :
    place ≤ blockEnd opening closing 0 last seen ↔
      StaysOpen opening closing 0 (seen.filter (·.1 < place)) ∧ ∃ x ∈ seen, place ≤ x.1 := by
  have hsplit := filter_append_filter hsorted place
  by_cases hopen : StaysOpen opening closing 0 (seen.filter (·.1 < place))
  · rw [and_iff_right hopen]
    by_cases hlater : seen.filter (place ≤ ·.1) = []
    · obtain ⟨x, hx, hend⟩ := blockEnd_mem hne 0 last hseen
      rw [hend]
      simp only [filter_eq_nil_iff, decide_eq_true_eq] at hlater
      exact iff_of_false (hlater x hx) fun ⟨y, hy, hle⟩ => hlater y hy hle
    · have hreach := blockEnd_append hne hopen last (seen.filter (place ≤ ·.1))
      obtain ⟨x, hx, hend⟩ := blockEnd_mem hne _ _ hlater
      rw [hsplit, hend] at hreach
      obtain ⟨hmem, hle⟩ := mem_filter.1 hx
      rw [hreach]
      exact iff_of_true (of_decide_eq_true hle) ⟨x, hmem, of_decide_eq_true hle⟩
  · obtain ⟨front, i, rest, hfilter, hbalances, hfront⟩ := exists_of_not_staysOpen hne hopen
    have hcloses : Closes opening closing seen i := by
      refine ⟨front, rest ++ seen.filter (place ≤ ·.1), ?_, hbalances, hfront⟩
      rw [← cons_append, ← append_assoc, ← hfilter, hsplit]
    have hi : (i, closing) ∈ seen.filter (·.1 < place) := by simp [hfilter]
    rw [blockEnd_of_closes hne hcloses]
    exact iff_of_false (Nat.not_le.2 (of_decide_eq_true (mem_filter.1 hi).2))
      fun h => hopen h.1

/-- The place of a closing bracket, up to which as many brackets are closed as opened. -/
def Matches (text : List Char) (start : Nat) (opening closing : Char) (place : Nat) : Prop :=
  start ≤ place ∧ text[place]? = some closing ∧
    (Chars.slice text start (place + 1)).count opening =
      (Chars.slice text start (place + 1)).count closing

instance (text : List Char) (start : Nat) (opening closing : Char) (place : Nat) :
    Decidable (Matches text start opening closing place) :=
  inferInstanceAs (Decidable (_ ∧ _))

theorem charactersSeen_of_plain {text : List Char}
    (hplain : Chars.contains text "#if".toList = false) (start : Nat) :
    charactersSeen text start = positioned start (text.drop start) := by
  rw [charactersSeen, hplain]
  rfl

theorem getElem?_positioned (start : Nat) (cs : List Char) (n : Nat) :
    (positioned start cs)[n]? = cs[n]?.map fun c => (start + n, c) := by
  induction cs generalizing start n with
  | nil => rfl
  | cons c cs ih =>
    cases n with
    | zero => rfl
    | succ n =>
      rw [positioned, getElem?_cons_succ, ih, getElem?_cons_succ, Nat.add_right_comm,
        Nat.add_assoc]

theorem countSeen_take_positioned (c : Char) (start : Nat) (cs : List Char) (n : Nat) :
    countSeen c ((positioned start cs).take n) = (cs.take n).count c := by
  have hcs : (positioned start cs).map Prod.snd = cs := by
    refine ext_getElem? fun k => ?_
    rw [getElem?_map, getElem?_positioned, Option.map_map]
    exact Option.map_id'
  rw [countSeen, map_take, hcs]

section
variable {text : List Char} {start : Nat} {opening closing : Char}

theorem matches_iff (hne : opening ≠ closing) (n : Nat) :
    Matches text start opening closing (start + n) ↔ (text.drop start)[n]? = some closing ∧
      Balances opening closing 0 ((positioned start (text.drop start)).take n) := by
  have hbalanced (h : (text.drop start)[n]? = some closing) :
      (Chars.slice text start (start + n + 1)).count opening =
          (Chars.slice text start (start + n + 1)).count closing ↔
        Balances opening closing 0 ((positioned start (text.drop start)).take n) := by
    rw [Chars.slice, drop_take, Nat.add_assoc, Nat.add_sub_cancel_left, take_add_one, h,
      Balances, countSeen_take_positioned, countSeen_take_positioned]
    simp [hne.symm]
    omega
  have hplace : (text.drop start)[n]? = text[start + n]? := getElem?_drop
  constructor
  · rintro ⟨-, hclosing, hcounts⟩
    rw [← hplace] at hclosing
    exact ⟨hclosing, (hbalanced hclosing).1 hcounts⟩
  · rintro ⟨hclosing, hbalances⟩
    exact ⟨Nat.le_add_right _ _, hplace ▸ hclosing, (hbalanced hclosing).2 hbalances⟩

theorem staysOpen_take (hne : opening ≠ closing) {n : Nat}
    (h : ∀ place < start + n, ¬ Matches text start opening closing place) :
    StaysOpen opening closing 0 ((positioned start (text.drop start)).take n) := by
  rw [staysOpen_iff_take]
  intro k hk hclosing hbalances
  have hkn : k < n := Nat.lt_of_lt_of_le hk (length_take_le _ _)
  refine h (start + k) (by omega) ((matches_iff hne k).2 ⟨?_, ?_⟩)
  · have hget := getElem?_eq_getElem hk
    rw [getElem?_take_of_lt hkn, getElem?_positioned, Option.map_eq_some_iff] at hget
    obtain ⟨c, hc, heq⟩ := hget
    rw [hc, ← hclosing, ← heq]
  · rwa [take_take, Nat.min_eq_left (Nat.le_of_lt hkn)] at hbalances

theorem blockFrom_eq_slice (hplain : Chars.contains text "#if".toList = false)
    (hne : opening ≠ closing) {place : Nat} (hplace : Matches text start opening closing place)
    (hleast : ∀ earlier < place, ¬ Matches text start opening closing earlier) :
    blockFrom text start opening closing = Chars.slice text start (place + 1) := by
  obtain ⟨n, rfl⟩ := Nat.exists_eq_add_of_le hplace.1
  obtain ⟨hclosing, hbalances⟩ := (matches_iff hne n).1 hplace
  have hcloses : Closes opening closing (positioned start (text.drop start)) (start + n) := by
    refine ⟨_, (positioned start (text.drop start)).drop (n + 1), ?_, hbalances,
      staysOpen_take hne hleast⟩
    have hget : (positioned start (text.drop start))[n]? = some (start + n, closing) := by
      rw [getElem?_positioned, hclosing, Option.map_some]
    obtain ⟨hn, hget⟩ := List.getElem?_eq_some_iff.1 hget
    rw [← hget, ← drop_eq_getElem_cons hn, take_append_drop]
  rw [blockFrom, charactersSeen_of_plain hplain, blockEnd_of_closes hne hcloses]

theorem blockFrom_eq_drop (hplain : Chars.contains text "#if".toList = false)
    (hne : opening ≠ closing) (hnone : ∀ place, ¬ Matches text start opening closing place) :
    blockFrom text start opening closing = text.drop start := by
  have hopen : StaysOpen opening closing 0 (positioned start (text.drop start)) := by
    have h := staysOpen_take hne (n := (positioned start (text.drop start)).length)
      fun place _ => hnone place
    rwa [take_length] at h
  have hend := blockEnd_append hne hopen 0 []
  rw [append_nil, blockEnd] at hend
  rw [blockFrom, charactersSeen_of_plain hplain, hend, Chars.slice, drop_take]
  refine take_of_length_le ?_
  obtain hnil | ⟨cs, c, hcs⟩ := eq_nil_or_concat (text.drop start)
  · rw [hnil]
    exact Nat.zero_le _
  · rw [hcs, concat_eq_append, positioned_append, positioned, positioned,
      getLast?_concat, Option.map_some, Option.getD_some, length_append,
      length_singleton]
    omega

end

/-- In a text without conditional directives, the block from a place on ends with the first closing
bracket that matches, and goes on to the end of the text if none does. -/
theorem findBlock_to_match (text : String) (start : Nat) (opening closing : Char)
    (hplain : Text.contains text "#if" = false) (hne : opening ≠ closing) :
    (∀ place, Matches text.toList start opening closing place →
      (∀ earlier < place, ¬ Matches text.toList start opening closing earlier) →
      findBlock text (some start) (.singleton opening) (.singleton closing) =
        .ok (Text.slice text start (place + 1))) ∧
    ((∀ place, ¬ Matches text.toList start opening closing place) →
      findBlock text (some start) (.singleton opening) (.singleton closing) =
        .ok (Text.after text start)) := by
  have hfind : findBlock text (some start) (.singleton opening) (.singleton closing) =
      .ok (String.ofList (blockFrom text.toList start opening closing)) := by
    simp only [findBlock, bracket?, String.toList_singleton]
    rfl
  rw [hfind]
  constructor
  · intro place hplace hleast
    rw [blockFrom_eq_slice hplain hne hplace hleast, Text.slice]
  · intro hnone
    rw [blockFrom_eq_drop hplain hne hnone, Text.after]

/-- A closing bracket before any opening one takes the depth below zero, and it comes back. From a
place after the end there is nothing. -/
theorem findBlock_to_match_reversed :
    findBlock "x)(()) y" (some 1) "(" ")" = .ok ")(()" ∧
      findBlock "f(x" (some 9) "(" ")" = .ok "" := by
  constructor
  · exact (findBlock_to_match "x)(()) y" 1 '(' ')' (by decide) (by decide)).1 4 (by decide)
      (by decide)
  · refine (findBlock_to_match "f(x" 9 '(' ')' (by decide) (by decide)).2 fun place h => ?_
    have hlt : place < 3 := (List.getElem?_eq_some_iff.1 h.2.1).1
    have hle := h.1
    omega

end BindingStubs.Source
