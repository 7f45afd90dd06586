import BindingStubs.Proofs.Source.Block
import BindingStubs.Proofs.Text.Search
import Mathlib.Data.List.Forall2

set_option autoImplicit false

/-!
# Conditionals in a scanned text

A scan shows a plain character if and only if the innermost conditional around it is in its first
branch.
-/

namespace BindingStubs.Source

open List

structure Quiet where
  chars : List Char
  quiet : '#' ∉ chars

inductive DirectiveBlank where
  | space
  | tab
  | lineFeed

def DirectiveBlank.char : DirectiveBlank → Char
  | .space => ' '
  | .tab => '\t'
  | .lineFeed => '\n'

/-- A directive after its keyword: a blank, and what else stands on its line. -/
structure DirectiveLine where
  blank : DirectiveBlank
  rest : Quiet

inductive OpeningWord where
  | condition
  | defined
  | undefined

def OpeningWord.chars : OpeningWord → List Char
  | .condition => "#if".toList
  | .defined => "#ifdef".toList
  | .undefined => "#ifndef".toList

inductive TurningWord where
  | otherwiseIf
  | otherwise

def TurningWord.chars : TurningWord → List Char
  | .otherwiseIf => "#elif".toList
  | .otherwise => "#else".toList

def closingWord : List Char := "#endif".toList

def DirectiveLine.after (line : DirectiveLine) (word : List Char) : List Char :=
  word ++ line.blank.char :: line.rest.chars

mutual

inductive Passage where
  | done
  | plain (stretch : Quiet) (rest : Passage)
  | conditional (word : OpeningWord) (line : DirectiveLine) (first : Passage)
      (later : LaterBranches) (closing : DirectiveLine) (rest : Passage)

inductive LaterBranches where
  | done
  | branch (word : TurningWord) (line : DirectiveLine) (passage : Passage) (others : LaterBranches)

end

mutual

def Passage.chars : Passage → List Char
  | .done => []
  | .plain stretch rest => stretch.chars ++ rest.chars
  | .conditional word line first later closing rest =>
    line.after word.chars ++ (first.chars ++
      (later.chars ++ (closing.after closingWord ++ rest.chars)))

def LaterBranches.chars : LaterBranches → List Char
  | .done => []
  | .branch word line passage others =>
    line.after word.chars ++ (passage.chars ++ others.chars)

end

/-- A character of a passage. Outside of directives `branches?` tells of each conditional around
it, the innermost first, whether the character is in its first branch. -/
structure Marked where
  char : Char
  branches? : Option (List Bool)
  deriving DecidableEq

def markAll (branches? : Option (List Bool)) (cs : List Char) : List Marked :=
  cs.map fun c => { char := c, branches? := branches? }

mutual

def Passage.marked (around : List Bool) : Passage → List Marked
  | .done => []
  | .plain stretch rest => markAll (some around) stretch.chars ++ rest.marked around
  | .conditional word line first later closing rest =>
    markAll none (line.after word.chars) ++ (first.marked (true :: around) ++
      (later.marked around ++ (markAll none (closing.after closingWord) ++ rest.marked around)))

def LaterBranches.marked (around : List Bool) : LaterBranches → List Marked
  | .done => []
  | .branch word line passage others =>
    markAll none (line.after word.chars) ++
      (passage.marked (false :: around) ++ others.marked around)

end

theorem markAll_chars (branches? : Option (List Bool)) (cs : List Char) :
    (markAll branches? cs).map Marked.char = cs := by
  simp [markAll, Function.comp_def]

mutual

theorem Passage.marked_chars (around : List Bool) (p : Passage) :
    (p.marked around).map Marked.char = p.chars := by
  cases p with
  | done => rfl
  | plain stretch rest =>
    rw [Passage.marked, Passage.chars, map_append, markAll_chars, rest.marked_chars]
  | conditional word line first later closing rest =>
    simp only [Passage.marked, Passage.chars, map_append, markAll_chars, first.marked_chars,
      later.marked_chars, rest.marked_chars]

theorem LaterBranches.marked_chars (around : List Bool) (l : LaterBranches) :
    (l.marked around).map Marked.char = l.chars := by
  cases l with
  | done => rfl
  | branch word line passage others =>
    simp only [LaterBranches.marked, LaterBranches.chars, map_append, markAll_chars,
      passage.marked_chars, others.marked_chars]

end

def shown : Branches → List Char → List Bool
  | _, [] => []
  | b, c :: rest => (b.see c).inner :: shown (b.see c) rest

theorem shown_append (b : Branches) (cs ds : List Char) :
    shown b (cs ++ ds) = shown b cs ++ shown (cs.foldl Branches.see b) ds := by
  induction cs generalizing b with
  | nil => rfl
  | cons c cs ih => simp only [cons_append, shown, ih, foldl_cons]

variable {b : Branches}

theorem mem_firstBranches {start k : Nat} {cs : List Char} {c : Char} :
    (start + k, c) ∈ firstBranches b start cs ↔
      cs[k]? = some c ∧ (shown b cs)[k]? = some true := by
  induction cs generalizing b start k with
  | nil => simp [firstBranches]
  | cons d cs ih =>
    have hhead : (start, c) ∉ firstBranches (b.see d) (start + 1) cs := fun h =>
      absurd (le_of_mem_positioned ((firstBranches_sublist _ _ _).subset h)).1
        (Nat.not_succ_le_self start)
    rw [firstBranches, shown]
    cases k with
    | zero => cases (b.see d).inner <;> simp [hhead, eq_comm]
    | succ k =>
      have hrest : (start + (k + 1), c) ∈ firstBranches (b.see d) (start + 1) cs ↔
          cs[k]? = some c ∧ (shown (b.see d) cs)[k]? = some true := by
        rw [← ih, Nat.add_right_comm start 1 k, Nat.add_assoc]
      rw [getElem?_cons_succ, getElem?_cons_succ, ← hrest]
      cases (b.see d).inner <;> simp

/-- A scan stands right inside the given branches and has no directive begun. -/
structure Branches.Within (b : Branches) (around : List Bool) : Prop where
  stack : b.inner :: b.outer = around ++ [true]
  quiet : '#' ∉ b.recent

theorem Branches.within_start : ({} : Branches).Within [] := ⟨rfl, not_mem_nil⟩

variable {around : List Bool}

theorem Branches.Within.inner_eq (h : b.Within around) : b.inner = around.headD true := by
  have hstack := h.stack
  cases around with
  | nil => simpa using congrArg List.head? hstack
  | cons v around => simpa using congrArg List.head? hstack

theorem Branches.see_quiet (h : '#' ∉ b.recent) {c : Char} (hc : c ≠ '#') :
    b.see c = { b with recent := (c :: b.recent).take recentLimit } := by
  have hrecent : '#' ∉ (c :: b.recent).take recentLimit := fun hmem =>
    (mem_cons.1 (mem_of_mem_take hmem)).elim (fun h => hc h.symm) h
  simp [Branches.see, hrecent]

theorem Branches.Within.see (h : b.Within around) {c : Char} (hc : c ≠ '#') :
    (b.see c).Within around := by
  rw [Branches.see_quiet h.quiet hc]
  exact ⟨h.stack, fun hmem =>
    (mem_cons.1 (mem_of_mem_take hmem)).elim (fun h => hc h.symm) h.quiet⟩

theorem Branches.Within.seeAll (h : b.Within around) {cs : List Char} (hquiet : '#' ∉ cs) :
    (cs.foldl Branches.see b).Within around := by
  induction cs generalizing b with
  | nil => exact h
  | cons c cs ih =>
    rw [mem_cons, not_or] at hquiet
    exact ih (h.see (Ne.symm hquiet.1)) hquiet.2

theorem see_openingWord (b : Branches) (word : OpeningWord) (blank : DirectiveBlank) :
    (word.chars ++ [blank.char]).foldl Branches.see b =
      { inner := true, outer := b.inner :: b.outer, recent := [] } := by
  cases word <;> cases blank <;> rfl

theorem see_turningWord (b : Branches) (word : TurningWord) (blank : DirectiveBlank) :
    (word.chars ++ [blank.char]).foldl Branches.see b =
      { inner := false, outer := b.outer, recent := [] } := by
  cases word <;> cases blank <;> rfl

theorem see_closingWord (inner outermost : Bool) (outer : List Bool) (recent : List Char)
    (blank : DirectiveBlank) :
    (closingWord ++ [blank.char]).foldl Branches.see
        { inner := inner, outer := outermost :: outer, recent := recent } =
      { inner := outermost, outer := outer, recent := [] } := by
  cases blank <;> rfl

theorem DirectiveLine.foldl_after (line : DirectiveLine) (word : List Char) (b : Branches) :
    (line.after word).foldl Branches.see b =
      line.rest.chars.foldl Branches.see ((word ++ [line.blank.char]).foldl Branches.see b) := by
  rw [DirectiveLine.after, ← foldl_append, append_assoc, singleton_append]

theorem Branches.Within.opening (h : b.Within around) (word : OpeningWord) (line : DirectiveLine) :
    ((line.after word.chars).foldl Branches.see b).Within (true :: around) := by
  rw [line.foldl_after, see_openingWord]
  refine Within.seeAll ⟨?_, not_mem_nil⟩ line.rest.quiet
  rw [cons_append, ← h.stack]

theorem Branches.Within.turning {v : Bool} (h : b.Within (v :: around)) (word : TurningWord)
    (line : DirectiveLine) :
    ((line.after word.chars).foldl Branches.see b).Within (false :: around) := by
  rw [line.foldl_after, see_turningWord]
  refine Within.seeAll ⟨?_, not_mem_nil⟩ line.rest.quiet
  exact congrArg (false :: ·) (cons_eq_cons.1 h.stack).2

theorem Branches.Within.closing {v : Bool} (h : b.Within (v :: around)) (line : DirectiveLine) :
    ((line.after closingWord).foldl Branches.see b).Within around := by
  obtain ⟨inner, outer, recent⟩ := b
  have houter : outer = around ++ [true] := (cons_eq_cons.1 h.stack).2
  cases outer with
  | nil => simp at houter
  | cons outermost outer =>
    rw [line.foldl_after, see_closingWord]
    exact Within.seeAll ⟨houter, not_mem_nil⟩ line.rest.quiet

def Tells (visible : Bool) (m : Marked) : Prop :=
  ∀ around, m.branches? = some around → visible = around.headD true

theorem tells_directive (b : Branches) (cs : List Char) :
    List.Forall₂ Tells (shown b cs) (markAll none cs) := by
  induction cs generalizing b with
  | nil => exact .nil
  | cons c cs ih => exact .cons (fun _ h => nomatch h) (ih (b.see c))

theorem tells_plain (h : b.Within around) {cs : List Char} (hquiet : '#' ∉ cs) :
    List.Forall₂ Tells (shown b cs) (markAll (some around) cs) := by
  induction cs generalizing b with
  | nil => exact .nil
  | cons c cs ih =>
    rw [mem_cons, not_or] at hquiet
    have hsee := h.see (Ne.symm hquiet.1)
    refine .cons ?_ (ih hsee hquiet.2)
    rintro _ ⟨⟩
    exact hsee.inner_eq

mutual

theorem Passage.scanned (p : Passage) {b : Branches} {around : List Bool} (h : b.Within around) :
    (p.chars.foldl Branches.see b).Within around ∧
      List.Forall₂ Tells (shown b p.chars) (p.marked around) := by
  cases p with
  | done => exact ⟨h, .nil⟩
  | plain stretch rest =>
    obtain ⟨hend, hrest⟩ := rest.scanned (h.seeAll stretch.quiet)
    rw [Passage.chars, Passage.marked, foldl_append, shown_append]
    exact ⟨hend, rel_append (tells_plain h stretch.quiet) hrest⟩
  | conditional word line first later closing rest =>
    obtain ⟨hfirst, hfirstTold⟩ := first.scanned (h.opening word line)
    obtain ⟨⟨v, hlater⟩, hlaterTold⟩ := later.scanned hfirst
    obtain ⟨hend, hrestTold⟩ := rest.scanned (hlater.closing closing)
    simp only [Passage.chars, Passage.marked, foldl_append, shown_append]
    exact ⟨hend, rel_append (tells_directive _ _) (rel_append hfirstTold
      (rel_append hlaterTold (rel_append (tells_directive _ _) hrestTold)))⟩

theorem LaterBranches.scanned (l : LaterBranches) {b : Branches} {v : Bool} {around : List Bool}
    (h : b.Within (v :: around)) :
    (∃ w, (l.chars.foldl Branches.see b).Within (w :: around)) ∧
      List.Forall₂ Tells (shown b l.chars) (l.marked around) := by
  cases l with
  | done => exact ⟨⟨v, h⟩, .nil⟩
  | branch word line passage others =>
    obtain ⟨hpassage, hpassageTold⟩ := passage.scanned (h.turning word line)
    obtain ⟨hend, hothersTold⟩ := others.scanned hpassage
    simp only [LaterBranches.chars, LaterBranches.marked, foldl_append, shown_append]
    exact ⟨hend, rel_append (tells_directive _ _) (rel_append hpassageTold hothersTold)⟩

end

/-- The characters outside of directives that are in the first branch of every conditional around
them, with their places. -/
def firstOnly : (start : Nat) → List Marked → List (Nat × Char)
  | _, [] => []
  | i, m :: rest =>
    if m.branches?.any (·.all id) then (i, m.char) :: firstOnly (i + 1) rest
    else firstOnly (i + 1) rest

def Passage.firstText (start : Nat) (p : Passage) : List (Nat × Char) :=
  firstOnly start (p.marked [])

/-- Is a character in the first branch of its own conditional, but not of all those further out? -/
def Marked.leaks (m : Marked) : Bool :=
  match m.branches? with
  | some (true :: outer) => outer.contains false
  | _ => false

def Passage.Shallow (p : Passage) : Prop := ∀ m ∈ p.marked [], m.leaks = false

instance (p : Passage) : Decidable p.Shallow :=
  inferInstanceAs (Decidable (∀ m ∈ p.marked [], m.leaks = false))

def Passage.BracketsApart (opening closing : Char) (p : Passage) : Prop :=
  ∀ m ∈ p.marked [], m.branches? = none → m.char ≠ opening ∧ m.char ≠ closing

instance (opening closing : Char) (p : Passage) : Decidable (p.BracketsApart opening closing) :=
  inferInstanceAs (Decidable (∀ m ∈ p.marked [], _))

theorem headD_eq_all {c : Char} (h : (Marked.mk c (some around)).leaks = false) :
    around.headD true = around.all id := by
  cases around with
  | nil => rfl
  | cons v outer =>
    cases v with
    | false => rfl
    | true => simpa [Marked.leaks] using h

theorem brackets_firstBranches {opening closing : Char} {ms : List Marked}
    (htold : List.Forall₂ Tells (shown b (ms.map Marked.char)) ms)
    (hshallow : ∀ m ∈ ms, m.leaks = false)
    (hapart : ∀ m ∈ ms, m.branches? = none → m.char ≠ opening ∧ m.char ≠ closing) (start : Nat) :
    brackets opening closing (firstBranches b start (ms.map Marked.char)) =
      brackets opening closing (firstOnly start ms) := by
  induction ms generalizing b start with
  | nil => rfl
  | cons m ms ih =>
    obtain ⟨htold, htail⟩ := forall₂_cons.1 htold
    have ih := ih htail (fun m hm => hshallow m (mem_cons_of_mem _ hm))
      (fun m hm => hapart m (mem_cons_of_mem _ hm)) (start + 1)
    have hm := hshallow m mem_cons_self
    have hmark := hapart m mem_cons_self
    obtain ⟨c, branches?⟩ := m
    rw [map_cons, firstBranches, firstOnly]
    cases branches? with
    | none =>
      obtain ⟨hopening, hclosing⟩ := hmark rfl
      cases (b.see c).inner <;> simpa [brackets, hopening, hclosing] using ih
    | some around =>
      have hkept : (b.see c).inner = around.all id := (htold around rfl).trans (headD_eq_all hm)
      dsimp only
      rw [hkept, Option.any_some]
      cases around.all id with
      | false => exact ih
      | true =>
        rw [if_pos rfl, if_pos rfl, ← singleton_append, brackets_append, ih,
          ← brackets_append, singleton_append]

theorem firstBranches_eq_positioned (h : b.Within []) {cs : List Char} (hquiet : '#' ∉ cs)
    (start : Nat) : firstBranches b start cs = positioned start cs := by
  induction cs generalizing b start with
  | nil => rfl
  | cons c cs ih =>
    rw [mem_cons, not_or] at hquiet
    have hsee := h.see (Ne.symm hquiet.1)
    rw [firstBranches, positioned, hsee.inner_eq, headD_nil, if_pos rfl, ih hsee hquiet.2]

theorem Passage.quiet_or_conditional (p : Passage) :
    '#' ∉ p.chars ∨ "#if".toList <:+: p.chars := by
  cases p with
  | done => exact .inl not_mem_nil
  | plain stretch rest =>
    rw [Passage.chars]
    refine rest.quiet_or_conditional.imp (fun h => ?_) fun h => ?_
    · exact not_mem_append stretch.quiet h
    · exact h.trans (suffix_append _ _).isInfix
  | conditional word line first later closing rest =>
    refine .inr (List.IsPrefix.isInfix ?_)
    have hword : "#if".toList <+: word.chars := by cases word <;> decide
    rw [Passage.chars, DirectiveLine.after, append_assoc]
    exact hword.trans (prefix_append _ _)

theorem charactersSeen_passage (before : List Char) (p : Passage) :
    charactersSeen (before ++ p.chars) before.length = firstBranches {} before.length p.chars := by
  rw [charactersSeen, drop_left]
  split
  · rfl
  · next h =>
    rw [Chars.contains_iff_infix] at h
    have hquiet : '#' ∉ p.chars := p.quiet_or_conditional.resolve_right fun hif =>
      h (hif.trans (suffix_append _ _).isInfix)
    exact (firstBranches_eq_positioned Branches.within_start hquiet _).symm

theorem findBlock_eq (text : List Char) (start : Nat) (opening closing : Char) :
    findBlock (String.ofList text) (some start) (String.singleton opening)
        (String.singleton closing) =
      .ok (String.ofList (blockFrom text start opening closing)) := by
  simp only [findBlock, bracket?, String.toList_singleton, String.toList_ofList]
  rfl

theorem findBlock_passage {before : List Char} {p : Passage} {opening closing : Char} {place : Nat}
    (hshallow : p.Shallow) (hne : opening ≠ closing) (hapart : p.BracketsApart opening closing)
    (hcloses : Closes opening closing (p.firstText before.length) place) :
    findBlock (String.ofList (before ++ p.chars)) (some before.length) (String.singleton opening)
        (String.singleton closing) =
      .ok (String.ofList (Chars.slice (before ++ p.chars) before.length (place + 1))) := by
  have htold : List.Forall₂ Tells (shown {} ((p.marked []).map Marked.char)) (p.marked []) := by
    rw [p.marked_chars]
    exact (p.scanned Branches.within_start).2
  have hseen : Closes opening closing (firstBranches {} before.length p.chars) place := by
    rw [← closes_brackets, ← p.marked_chars [], brackets_firstBranches htold hshallow hapart,
      closes_brackets]
    exact hcloses
  rw [findBlock_eq, blockFrom, charactersSeen_passage, blockEnd_of_closes hne hseen]

theorem mem_firstBranches_marked (p : Passage) (start : Nat) {k : Nat} {c : Char}
    (hk : (p.marked [])[k]? = some ⟨c, some around⟩) :
    (start + k, c) ∈ firstBranches {} start p.chars ↔ around.headD true = true := by
  have hchar : p.chars[k]? = some c := by
    rw [← p.marked_chars [], getElem?_map, hk, Option.map_some]
  obtain ⟨hlength, htold⟩ := forall₂_iff_get.1 (p.scanned Branches.within_start).2
  obtain ⟨hmarked, hmark⟩ := List.getElem?_eq_some_iff.1 hk
  have hvisible : (shown {} p.chars)[k]? = some (around.headD true) := by
    rw [getElem?_eq_getElem (hlength ▸ hmarked)]
    exact congrArg some (htold k (hlength ▸ hmarked) hmarked around (congrArg Marked.branches? hmark))
  rw [mem_firstBranches, hchar, hvisible]
  simp

/-- What a scan shows outside of directives, and when that is the text in first branches. -/
theorem shown_iff_innermost_first (p : Passage) (start : Nat) :
    (∀ k c around, (p.marked [])[k]? = some ⟨c, some around⟩ →
      ((start + k, c) ∈ firstBranches {} start p.chars ↔ around.head? ≠ some false)) ∧
    ((∀ k c around, (p.marked [])[k]? = some ⟨c, some around⟩ →
      ((start + k, c) ∈ firstBranches {} start p.chars ↔ false ∉ around)) ↔ p.Shallow) ∧
    (p.Shallow → ∀ (before : List Char) (opening closing : Char) (place : Nat),
      before.length = start → opening ≠ closing → p.BracketsApart opening closing →
      Closes opening closing (p.firstText start) place →
      findBlock (String.ofList (before ++ p.chars)) (some start) (String.singleton opening)
          (String.singleton closing) =
        .ok (String.ofList (Chars.slice (before ++ p.chars) start (place + 1)))) := by
  refine ⟨fun k c around hk => ?_, ⟨fun h m hm => ?_, fun h k c around hk => ?_⟩, ?_⟩
  · rw [mem_firstBranches_marked p start hk]
    rcases around with _ | ⟨_ | _, outer⟩ <;> simp
  · obtain ⟨k, hk⟩ := mem_iff_getElem?.1 hm
    obtain ⟨c, _ | _ | ⟨_ | _, outer⟩⟩ := m
    · rfl
    · rfl
    · rfl
    · have hshown := (h k c _ hk).1 ((mem_firstBranches_marked p start hk).2 rfl)
      simpa [Marked.leaks] using hshown
  · rw [mem_firstBranches_marked p start hk, headD_eq_all (h _ (mem_of_getElem? hk))]
    simp
  · rintro hshallow before opening closing place rfl hne hapart hcloses
    exact findBlock_passage hshallow hne hapart hcloses

def nestedBlock : Passage :=
  .plain ⟨"\x7b\n".toList, by decide⟩ <|
  .conditional .defined ⟨.space, ⟨"A\n".toList, by decide⟩⟩
    (.plain ⟨"\x7b\n".toList, by decide⟩ <|
      .conditional .condition ⟨.tab, ⟨"B\n".toList, by decide⟩⟩
        (.plain ⟨"\x7d\n".toList, by decide⟩ .done)
        (.branch .otherwise ⟨.lineFeed, ⟨[], by decide⟩⟩
          (.plain ⟨"x\n".toList, by decide⟩ .done) .done)
        ⟨.lineFeed, ⟨[], by decide⟩⟩ .done)
    (.branch .otherwiseIf ⟨.space, ⟨"C\n".toList, by decide⟩⟩
      (.plain ⟨"\x7d\n".toList, by decide⟩ .done) .done)
    ⟨.lineFeed, ⟨[], by decide⟩⟩ <|
  .plain ⟨"\x7d".toList, by decide⟩ .done

/-- The bracket of the later branch is passed over. -/
theorem shown_iff_innermost_first_nested :
    nestedBlock.Shallow ∧ nestedBlock.BracketsApart '\x7b' '\x7d' ∧
      Closes '\x7b' '\x7d' (nestedBlock.firstText 4) 57 ∧
      findBlock (String.ofList ("f() ".toList ++ nestedBlock.chars)) (some 4) "\x7b" "\x7d" =
        .ok (String.ofList nestedBlock.chars) := by
  have hne : '\x7b' ≠ '\x7d' := by decide
  have hshallow : nestedBlock.Shallow := by decide
  have hapart : nestedBlock.BracketsApart '\x7b' '\x7d' := by decide
  have hcloses : Closes '\x7b' '\x7d' (nestedBlock.firstText 4) 57 :=
    ⟨(nestedBlock.firstText 4).take 6, [], by decide, by decide, by decide⟩
  exact ⟨hshallow, hapart, hcloses, (shown_iff_innermost_first nestedBlock 4).2.2 hshallow
    "f() ".toList '\x7b' '\x7d' 57 rfl hne hapart hcloses⟩

def leakingBlock : Passage :=
  .plain ⟨"\x7b\n".toList, by decide⟩ <|
  .conditional .condition ⟨.space, ⟨"A\n".toList, by decide⟩⟩ .done
    (.branch .otherwise ⟨.lineFeed, ⟨[], by decide⟩⟩
      (.conditional .condition ⟨.space, ⟨"B\n".toList, by decide⟩⟩
        (.plain ⟨"\x7d\n".toList, by decide⟩ .done) .done ⟨.lineFeed, ⟨[], by decide⟩⟩ .done)
      .done)
    ⟨.lineFeed, ⟨[], by decide⟩⟩ <|
  .plain ⟨"\x7d".toList, by decide⟩ .done

/-- A bracket that no first branch of the outer conditional holds is shown and ends the block. -/
theorem leakingBlock_ends_early :
    leakingBlock.chars = "\x7b\n#if A\n#else\n#if B\n\x7d\n#endif\n#endif\n\x7d".toList ∧
      (leakingBlock.marked [])[20]? = some ⟨'\x7d', some [true, false]⟩ ∧
      (0 + 20, '\x7d') ∈ firstBranches {} 0 leakingBlock.chars ∧
      leakingBlock.BracketsApart '\x7b' '\x7d' ∧
      Closes '\x7b' '\x7d' (leakingBlock.firstText 0) 36 ∧
      findBlock (String.ofList leakingBlock.chars) (some 0) "\x7b" "\x7d" =
        .ok "\x7b\n#if A\n#else\n#if B\n\x7d" := by
  refine ⟨by decide, by decide, by decide, by decide, ?_, by decide⟩
  exact ⟨(leakingBlock.firstText 0).take 2, [], by decide, by decide, by decide⟩

end BindingStubs.Source
