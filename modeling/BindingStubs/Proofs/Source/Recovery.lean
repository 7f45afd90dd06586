import BindingStubs.Proofs.Source.Bodies
import BindingStubs.Proofs.Source.Conditionals

set_option autoImplicit false

/-!
# Scans that start inside a conditional

A scan that starts in the last branch of a conditional goes on after it. In any other branch it ends
at the next directive.
-/

namespace BindingStubs.Source

open List

/-- A text that starts inside a branch: what is left of the branch, the later branches, and the end
of the conditional with the text after it. -/
structure Remainder where
  branch : Quiet
  turns : List (TurningWord × DirectiveLine)
  closing : DirectiveLine

namespace Remainder

def turning (m : Remainder) : List Char := m.turns.flatMap fun turn => turn.2.after turn.1.chars

def front (m : Remainder) : List Char :=
  m.branch.chars ++ (m.turning ++ (closingWord ++ [m.closing.blank.char]))

def chars (m : Remainder) : List Char := m.front ++ m.closing.rest.chars

def seen (m : Remainder) : List Char :=
  match m.turns with
  | [] => m.chars
  | turn :: _ => m.branch.chars ++ turn.1.chars

end Remainder

/-- A scan stands at the outermost level, which is turned on or off, and has no directive begun. -/
structure Branches.Outermost (b : Branches) (on : Bool) : Prop where
  inner : b.inner = on
  outer : b.outer = []
  quiet : '#' ∉ b.recent

def endsDirective (c : Char) : Bool := c == ' ' || c == '\n' || c == '\t'

section
variable {b : Branches} {on : Bool} {cs : List Char}

theorem firstBranches_word (hword : cs.any endsDirective = false) (start : Nat) :
    firstBranches b start cs = if b.inner then positioned start cs else [] := by
  induction cs generalizing b start with
  | nil => simp [firstBranches, positioned]
  | cons c cs ih =>
    rw [any_cons, Bool.or_eq_false_iff, endsDirective] at hword
    have hsee : (b.see c).inner = b.inner := by simp [Branches.see, hword.1]
    rw [firstBranches, ih hword.2, hsee, positioned]
    cases b.inner <;> rfl

theorem Branches.Outermost.quiet_text (h : b.Outermost on) (hquiet : '#' ∉ cs) (start : Nat) :
    (cs.foldl Branches.see b).Outermost on ∧
      firstBranches b start cs = if on then positioned start cs else [] := by
  induction cs generalizing b start with
  | nil => exact ⟨h, by simp [firstBranches, positioned]⟩
  | cons c cs ih =>
    rw [mem_cons, not_or] at hquiet
    have hsee : (b.see c).Outermost on := by
      rw [Branches.see_quiet h.quiet (Ne.symm hquiet.1)]
      refine ⟨h.inner, h.outer, fun hmem => ?_⟩
      exact (mem_cons.1 (mem_of_mem_take hmem)).elim hquiet.1 h.quiet
    obtain ⟨hend, hshown⟩ := ih hsee hquiet.2 (start + 1)
    refine ⟨hend, ?_⟩
    rw [firstBranches, hshown, hsee.inner, positioned]
    cases on <;> rfl

theorem firstBranches_directive {word : List Char} {line : DirectiveLine} {after : Bool}
    (hword : word.any endsDirective = false)
    (hsee : ((word ++ [line.blank.char]).foldl Branches.see b).Outermost after) (start : Nat) :
    ((line.after word).foldl Branches.see b).Outermost after ∧
      firstBranches b start (line.after word) = (if b.inner then positioned start word else []) ++
        if after then positioned (start + word.length) (line.blank.char :: line.rest.chars) else [] := by
  have hsplit : line.after word = word ++ ([line.blank.char] ++ line.rest.chars) := rfl
  obtain ⟨hend, hrest⟩ := hsee.quiet_text line.rest.quiet (start + word.length + 1)
  have hinner := hsee.inner
  rw [foldl_append, foldl_cons, foldl_nil] at hinner
  refine ⟨by rwa [line.foldl_after], ?_⟩
  rw [foldl_append] at hrest
  rw [hsplit, firstBranches_append, firstBranches_word hword, firstBranches_append, length_singleton,
    hrest, firstBranches, hinner, firstBranches, positioned]
  cases after <;> rfl

theorem Branches.Outermost.turning (h : b.Outermost on) (word : TurningWord) (line : DirectiveLine)
    (start : Nat) :
    ((line.after word.chars).foldl Branches.see b).Outermost false ∧
      firstBranches b start (line.after word.chars) =
        if on then positioned start word.chars else [] := by
  have hword : word.chars.any endsDirective = false := by cases word <;> decide
  have hsee : ((word.chars ++ [line.blank.char]).foldl Branches.see b).Outermost false := by
    rw [see_turningWord]
    exact ⟨rfl, h.outer, not_mem_nil⟩
  obtain ⟨hend, hshown⟩ := firstBranches_directive hword hsee start
  exact ⟨hend, by rw [hshown, h.inner]; simp⟩

theorem Branches.Outermost.closing (h : b.Outermost on) (line : DirectiveLine) (start : Nat) :
    firstBranches b start (line.after closingWord) =
      if on then positioned start (line.after closingWord) else [] := by
  have hsee : ((closingWord ++ [line.blank.char]).foldl Branches.see b).Outermost on := by
    obtain ⟨inner, outer, recent⟩ := b
    obtain ⟨rfl, rfl, -⟩ := h
    obtain ⟨_ | _ | _, _⟩ := line <;> exact ⟨rfl, rfl, not_mem_nil⟩
  rw [(firstBranches_directive (by decide) hsee start).2, h.inner, DirectiveLine.after, positioned_append]
  cases on <;> rfl

theorem Branches.Outermost.turned_off (h : b.Outermost false)
    (turns : List (TurningWord × DirectiveLine)) (line : DirectiveLine) (start : Nat) :
    firstBranches b start ((turns.flatMap fun turn => turn.2.after turn.1.chars) ++
      line.after closingWord) = [] := by
  induction turns generalizing b start with
  | nil => exact h.closing line start
  | cons turn turns ih =>
    obtain ⟨hend, hshown⟩ := h.turning turn.1 turn.2 start
    rw [flatMap_cons, append_assoc, firstBranches_append, hshown, ih hend]
    rfl

end

theorem mem_positioned {start k : Nat} {cs : List Char} {c : Char} (h : cs[k]? = some c) :
    (start + k, c) ∈ positioned start cs := by
  induction cs generalizing start k with
  | nil => cases h
  | cons d cs ih =>
    cases k with
    | zero =>
      cases h
      exact mem_cons_self
    | succ k =>
      have hrest : (start + 1 + k, c) ∈ positioned (start + 1) cs := ih h
      rw [Nat.add_assoc, Nat.add_comm 1] at hrest
      exact mem_cons_of_mem _ hrest

theorem blockEnd_positioned {opening closing : Char} (hne : opening ≠ closing) {start : Nat}
    {cs : List Char}
    (hopen : StaysOpen opening closing 0 (positioned start cs)) (hcs : cs ≠ []) :
    blockEnd opening closing 0 0 (positioned start cs) + 1 = start + cs.length := by
  have hend := blockEnd_append hne hopen 0 []
  rw [append_nil] at hend
  obtain ⟨cs, c, rfl⟩ := (eq_nil_or_concat' cs).resolve_left hcs
  rw [hend, positioned_append, blockEnd, positioned, positioned, getLast?_concat]
  simp [Nat.add_assoc]

namespace Remainder

theorem chars_eq (m : Remainder) :
    m.chars = m.branch.chars ++ (m.turning ++ m.closing.after closingWord) := by
  simp [chars, front, DirectiveLine.after]

theorem firstBranches_chars (m : Remainder) (start : Nat) :
    firstBranches {} start m.chars = positioned start m.seen := by
  have houtermost : ({} : Branches).Outermost true := ⟨rfl, rfl, not_mem_nil⟩
  obtain ⟨hend, hshown⟩ := houtermost.quiet_text m.branch.quiet start
  obtain ⟨branch, _ | ⟨turn, turns⟩, closing⟩ := m
  · change _ = positioned start (chars _)
    rw [chars_eq, firstBranches_append, hshown, positioned_append]
    exact congrArg _ (hend.closing closing _)
  · obtain ⟨hturned, hturning⟩ := hend.turning turn.1 turn.2 (start + branch.chars.length)
    rw [chars_eq, firstBranches_append, hshown, turning, flatMap_cons, append_assoc,
      firstBranches_append, hturning, hturned.turned_off, append_nil]
    exact (positioned_append _ _ _).symm

theorem charactersSeen_chars (m : Remainder) {before : List Char} (h : "#if".toList <:+: before) :
    charactersSeen (before ++ m.chars) before.length = positioned before.length m.seen := by
  rw [charactersSeen, if_pos, drop_left, m.firstBranches_chars]
  exact Chars.contains_iff_infix.2 (h.trans (prefix_append _ _).isInfix)

theorem seen_of_turns {m : Remainder} (h : m.turns ≠ []) : m.seen ≠ [] ∧ m.seen <+: m.front := by
  obtain ⟨branch, _ | ⟨⟨word, line⟩, turns⟩, closing⟩ := m
  · exact absurd rfl h
  · have hword : word.chars ≠ [] := by cases word <;> decide
    refine ⟨append_ne_nil_of_right_ne_nil _ hword, ?_⟩
    rw [front, turning, flatMap_cons, DirectiveLine.after, append_assoc, append_assoc,
      ← append_assoc]
    exact prefix_append _ _

end Remainder

/-- A scan that starts inside a branch shows the text after the conditional if and only if no further
branch follows. Without one, a block ends where it is closed in the whole text. With one, a block that
is still open there ends with the word of the directive. -/
theorem scan_recovers_iff (m : Remainder) (start : Nat) :
    ((∀ k c, m.closing.rest.chars[k]? = some c →
        (start + m.front.length + k, c) ∈ firstBranches {} start m.chars) ↔
      m.turns = [] ∨ m.closing.rest.chars = []) ∧
    ∀ (before : List Char) (opening closing : Char), before.length = start →
      "#if".toList <:+: before → opening ≠ closing →
      (m.turns = [] → ∀ place, Closes opening closing (positioned start m.chars) place →
        findBlock (String.ofList (before ++ m.chars)) (some start) (String.singleton opening)
            (String.singleton closing) =
          .ok (String.ofList (Chars.slice (before ++ m.chars) start (place + 1)))) ∧
      (m.turns ≠ [] → StaysOpen opening closing 0 (positioned start m.seen) →
        findBlock (String.ofList (before ++ m.chars)) (some start) (String.singleton opening)
            (String.singleton closing) = .ok (String.ofList m.seen)) := by
  have hall (hturns : m.turns = []) : m.seen = m.chars := by rw [Remainder.seen, hturns]
  constructor
  · rw [m.firstBranches_chars]
    constructor
    · intro h
      by_contra hnot
      rw [not_or] at hnot
      obtain ⟨c, rest, hrest⟩ := exists_cons_of_ne_nil hnot.2
      have hlt := (le_of_mem_positioned (h 0 c (by rw [hrest]; rfl))).2
      have hle := (Remainder.seen_of_turns hnot.1).2.length_le
      omega
    · rintro (hturns | hrest) k c hk
      · rw [hall hturns, Remainder.chars, positioned_append]
        exact mem_append_right _ (mem_positioned hk)
      · rw [hrest] at hk
        cases hk
  · rintro before opening closing rfl hif hne
    rw [findBlock_eq, blockFrom, m.charactersSeen_chars hif]
    refine ⟨fun hturns place hcloses => ?_, fun hturns hopen => ?_⟩
    · rw [hall hturns, blockEnd_of_closes hne hcloses]
    · obtain ⟨hne', hstarts⟩ := Remainder.seen_of_turns hturns
      obtain ⟨rest, hrest⟩ := hstarts.trans (prefix_append m.front m.closing.rest.chars)
      rw [blockEnd_positioned hne hopen hne', Remainder.chars, ← hrest, Chars.slice,
        take_length_add_append, take_left, drop_left]

def lastBranch : Remainder where
  branch := ⟨"f(\n".toList, by decide⟩
  turns := []
  closing := ⟨.lineFeed, ⟨"y);".toList, by decide⟩⟩

def firstOfThree : Remainder :=
  { lastBranch with
    turns := [(.otherwiseIf, ⟨.space, ⟨"B\nf(x,\n".toList, by decide⟩⟩),
      (.otherwise, ⟨.lineFeed, ⟨"g(z,\n".toList, by decide⟩⟩)] }

theorem scan_recovers_iff_remainders :
    "#if".toList <:+: "#if A\n".toList ∧ Closes '(' ')' (positioned 6 lastBranch.chars) 17 ∧
      findBlock "#if A\nf(\n#endif\ny);" (some 6) "(" ")" = .ok "f(\n#endif\ny)" ∧
      StaysOpen '(' ')' 0 (positioned 6 firstOfThree.seen) ∧
      findBlock "#if A\nf(\n#elif B\nf(x,\n#else\ng(z,\n#endif\ny);" (some 6) "(" ")" =
        .ok "f(\n#elif" := by
  have hif : "#if".toList <:+: "#if A\n".toList := by decide
  have hcloses : Closes '(' ')' (positioned 6 lastBranch.chars) 17 :=
    ⟨positioned 6 "f(\n#endif\ny".toList, [(18, ';')], by decide, by decide, by decide⟩
  have hopen : StaysOpen '(' ')' 0 (positioned 6 firstOfThree.seen) := by decide
  have hends (m : Remainder) :=
    (scan_recovers_iff m 6).2 "#if A\n".toList '(' ')' rfl hif (by decide)
  exact ⟨hif, hcloses, (hends lastBranch).1 rfl 17 hcloses, hopen,
    (hends firstOfThree).2 (by simp [firstOfThree]) hopen⟩

def firstOfTwo : Remainder :=
  { lastBranch with turns := [(.otherwise, ⟨.lineFeed, ⟨"f(x,\n".toList, by decide⟩⟩)] }

/-- The bracket after the conditional is not shown, and the block ends with the directive. -/
theorem firstOfTwo_ends_early :
    firstOfTwo.chars = "f(\n#else\nf(x,\n#endif\ny);".toList ∧
      (28, ')') ∈ positioned 6 firstOfTwo.chars ∧ (28, ')') ∉ firstBranches {} 6 firstOfTwo.chars ∧
      findBlock "#if A\nf(\n#else\nf(x,\n#endif\ny);" (some 6) "(" ")" = .ok "f(\n#else" := by
  decide

end BindingStubs.Source
