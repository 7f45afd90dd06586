import BindingStubs.Proofs.Pattern.Places
import BindingStubs.Proofs.Pattern.Reading

set_option autoImplicit false

/-! # Runs of patterns -/

namespace BindingStubs.Pattern

open List

def Spot.between (before after : List Char) (caught : List (Nat × Nat × Nat)) : Spot where
  passed := before.reverse
  rest := after
  place := before.length
  left := after.length
  caught := caught

section
variable (before after : List Char) (caught : List (Nat × Nat × Nat))

theorem Spot.move_between (c : Char) :
    (between before (c :: after) caught).move c after = between (before ++ [c]) after caught := by
  simp [between, Spot.move]

end

section
variable {text : List Char} {s : Spot} {next : Next}

theorem run_sequence_nil : run text (sequence []) s next = next s := rfl

theorem run_sequence_cons (item : Item) (items : List Item) :
    run text (sequence (item :: items)) s next =
      run text item.node s fun t => run text (sequence items) t next := by
  cases items <;> rfl

theorem run_sequence_append (items more : List Item) :
    run text (sequence (items ++ more)) s next =
      run text (sequence items) s fun t => run text (sequence more) t next := by
  induction items generalizing s with
  | nil => rfl
  | cons item items ih =>
    rw [cons_append, run_sequence_cons, run_sequence_cons]
    congr 1
    funext t
    exact ih

theorem run_seq (a b : Node) :
    run text (.seq a b) s next = run text a s fun t => run text b t next := rfl

theorem run_alt (a b : Node) :
    run text (.alt a b) s next = (run text a s next).or (run text b s next) := by
  rw [run]
  cases run text a s next <;> rfl

theorem run_capture (index : Nat) (body : Node) :
    run text (.capture index body) s next =
      run text body s fun t => next (t.hold index s.place) := rfl

theorem run_atomic (body : Node) :
    run text (.atomic body) s next = (run text body s some).bind next := by
  rw [run]
  cases run text body s some <;> rfl

theorem has_charItem (c d : Char) :
    CharSet.has { items := [.char c.toNat] } d = (c == d) := by
  have hcode : (c.toNat == d.toNat) = (c == d) := by
    rw [Bool.eq_iff_iff, beq_iff_eq, beq_iff_eq]
    exact ⟨fun h => Char.ext (UInt32.toNat_inj.1 h), congrArg Char.toNat⟩
  rw [← hcode]
  simp [CharSet.has, Text.Folding.same]

theorem has_char (own : Nat) (c : Char) :
    ClassItem.has .none c.toNat (.char own) = (own == c.toNat) := by
  rw [ClassItem.has, Bool.beq_comm (a := own)]
  split
  · rfl
  · exact Bool.beq_comm

theorem has_kind (k : CharKind) (negated : Bool) (c : Char) :
    ClassItem.has .none c.toNat (.kind k false negated) = (k.has false c != negated) := by
  rw [ClassItem.has, Char.ofNat_toNat]

theorem has_set (items : List ClassItem) (negated : Bool) (c : Char) :
    CharSet.has { negated, items } c =
      (items.any (ClassItem.has .none c.toNat) != negated) := by
  rw [CharSet.has]
  split
  · next own h =>
    dsimp only at h
    rw [h, any_cons, any_nil, Bool.or_false, has_char]
    rfl
  · rfl

section
variable {before after : List Char} {caught : List (Nat × Nat × Nat)}

theorem run_set_cons (cs : CharSet) (c : Char) :
    run text (.set cs) (.between before (c :: after) caught) next =
      if cs.has c then next (.between (before ++ [c]) after caught) else none := by
  rw [← Spot.move_between]
  rfl

theorem run_literal_append (name : List Char) :
    run text (sequence (literalItems {} name)) (.between before (name ++ after) caught) next =
      next (.between (before ++ name) after caught) := by
  induction name generalizing before with
  | nil =>
    rw [append_nil]
    rfl
  | cons c name ih =>
    rw [literalItems, map_cons, run_sequence_cons]
    refine (run_set_cons _ c).trans ?_
    rw [show Flags.folding {} = .none from rfl, has_charItem, beq_self_eq_true, if_pos rfl]
    refine ih.trans ?_
    rw [append_assoc, singleton_append]

theorem run_literal_eq_none {name : List Char} (h : ¬ name <+: after) :
    run text (sequence (literalItems {} name)) (.between before after caught) next = none := by
  induction name generalizing before after with
  | nil => exact absurd nil_prefix h
  | cons c name ih =>
    rw [literalItems, map_cons, run_sequence_cons]
    cases after with
    | nil => rfl
    | cons d after =>
      refine (run_set_cons _ d).trans ?_
      rw [show Flags.folding {} = .none from rfl, has_charItem]
      split_ifs with hcd
      · rw [beq_iff_eq] at hcd
        exact ih fun hname => h (cons_prefix_cons.2 ⟨hcd, hname⟩)
      · rfl

end

def longest (has : Char → Bool) (next : Next) (s : Spot) : Option Spot :=
  firstOf next (spread has none s.rest s [])

theorem firstOf_append (spots more : List Spot) :
    firstOf next (spots ++ more) = (firstOf next spots).or (firstOf next more) := by
  induction spots with
  | nil => rfl
  | cons s spots ih =>
    rw [cons_append, firstOf, firstOf]
    split
    · rfl
    · exact ih

theorem firstOf_singleton (next : Spot → Option Spot) (s : Spot) : firstOf next [s] = next s := by
  rw [firstOf]
  split
  · next h => exact h.symm
  · next h => exact h.symm

theorem spread_eq_append (has : Char → Bool) (rest : List Char) (s : Spot) (earlier : List Spot) :
    spread has none rest s earlier = spread has none rest s [] ++ earlier := by
  induction rest generalizing s earlier with
  | nil => rfl
  | cons c rest ih =>
    rw [spread, spread]
    split_ifs
    · rfl
    · rw [Option.map_none, ih, ih _ [s], append_assoc, singleton_append]
    · rfl

section
variable {has : Char → Bool} {before after : List Char} {caught : List (Nat × Nat × Nat)}

theorem longest_nil :
    longest has next (.between before [] caught) = next (.between before [] caught) :=
  firstOf_singleton _ _

theorem longest_of_not {c : Char} (hc : has c = false) :
    longest has next (.between before (c :: after) caught) =
      next (.between before (c :: after) caught) := by
  rw [longest, ← firstOf_singleton next]
  change firstOf next (spread has none (c :: after) _ []) = _
  rw [spread, hc]
  rfl

theorem longest_of_has {c : Char} (hc : has c = true) :
    longest has next (.between before (c :: after) caught) =
      (longest has next (.between (before ++ [c]) after caught)).or
        (next (.between before (c :: after) caught)) := by
  rw [longest, longest, ← firstOf_singleton next, ← firstOf_append]
  change firstOf next (spread has none (c :: after) _ []) = _
  rw [spread, hc, if_neg (by decide), if_pos rfl, Spot.move_between, Option.map_none,
    spread_eq_append]
  rfl

theorem longest_append {word : List Char} (hne : word ≠ []) (hword : ∀ c ∈ word, has c = true)
    (hnext : ∀ u v, u ++ v = word → u ≠ [] → v ≠ [] →
      next (.between (before ++ u) (v ++ after) caught) = none) :
    longest has next (.between before (word ++ after) caught) =
      (longest has next (.between (before ++ word) after caught)).or
        (next (.between before (word ++ after) caught)) := by
  induction word generalizing before with
  | nil => exact absurd rfl hne
  | cons c word ih =>
    rw [cons_append, longest_of_has (hword c mem_cons_self)]
    cases word with
    | nil => rfl
    | cons d word =>
      have hhere := hnext [c] (d :: word) rfl (cons_ne_nil _ _) (cons_ne_nil _ _)
      rw [ih (cons_ne_nil d word) fun e he => hword e (mem_cons_of_mem c he), hhere,
        Option.or_none, append_assoc, singleton_append]
      intro u v huv hu hv
      rw [append_assoc, singleton_append]
      exact hnext (c :: u) v (congrArg (c :: ·) huv) (cons_ne_nil _ _) hv

end

theorem run_rounds_one (cs : CharSet) :
    run text (.rounds (.set cs) 1 none .most) s next =
      run text (.set cs) s (longest cs.has next) := by
  change runSet cs.has 1 none .most s next = _
  rw [runSet, run]
  rcases s with ⟨passed, _ | ⟨c, rest⟩, place, left, caught⟩
  · rfl
  · dsimp only [exactly?]
    split_ifs <;> rfl

theorem run_rounds_of_ne {body : Node} (h : ∀ cs, body ≠ .set cs) (atMost : Option Nat) :
    run text (.rounds body 0 atMost .most) s next =
      manyOf (run text body) (s.left + 1) atMost s next := by
  have hrun : run text (.rounds body 0 atMost .most) s next =
      manyOf (run text body) (s.left + 1) (atMost.map (· - 0)) s next := by
    cases body with
    | set cs => exact absurd rfl (h cs)
    | _ => rfl
  rw [hrun]
  cases atMost <;> rfl

theorem manyOf_succ (body : Spot → Next → Option Spot) (fuel : Nat) :
    manyOf body (fuel + 1) none s next =
      (body s fun t => if t.place == s.place then next t else manyOf body fuel none t next).or
        (next s) := by
  rw [manyOf, if_neg (by decide), Option.map_none]
  cases body s _ <;> rfl

theorem manyOf_once (body : Spot → Next → Option Spot) (fuel : Nat) :
    manyOf body (fuel + 1) (some 1) s next = (body s next).or (next s) := by
  have hrest : ∀ t, manyOf body fuel (some 0) t next = next t := by
    intro t
    cases fuel <;> rfl
  have hround : (fun t : Spot => if t.place == s.place then next t
      else manyOf body fuel ((some 1).map (· - 1)) t next) = next := by
    funext t
    split_ifs
    · rfl
    · exact hrest t
  rw [manyOf, hround]
  cases body s next <;> rfl

theorem run_optional {body : Node} (h : ∀ cs, body ≠ .set cs) :
    run text (.rounds body 0 (some 1) .most) s next = (run text body s next).or (next s) := by
  rw [run_rounds_of_ne h, manyOf_once]

section
variable (before after : List Char) (caught : List (Nat × Nat × Nat))

theorem Spot.isWordEdge_between (wanted : Bool) :
    (between before after caught).isWordEdge false wanted =
      (!(before.isEmpty && after.isEmpty) &&
        (before.getLast?.any Text.isWord != after.head?.any Text.isWord) == wanted) := by
  rw [← head?_reverse, ← isEmpty_reverse]
  simp only [isWordEdge, between]
  generalize before.reverse = passed
  cases passed <;> cases after <;> rfl

theorem run_behind_set (cs : CharSet) :
    run text (.behind false 1 (.set cs)) (.between before after caught) next =
      if before.getLast?.any cs.has then none else next (.between before after caught) := by
  rcases eq_nil_or_concat' before with rfl | ⟨before, c, rfl⟩
  · rfl
  · have hback : (Spot.between (before ++ [c]) after caught).back? 1 =
        some (.between before (c :: after) caught) := by
      simp [Spot.back?, Spot.between]
    rw [run, hback, Option.bind_some, run_set_cons, getLast?_concat, Option.any_some]
    cases cs.has c <;> rfl

end

end

end BindingStubs.Pattern
