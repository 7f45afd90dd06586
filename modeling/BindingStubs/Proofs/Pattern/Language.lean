import BindingStubs.Proofs.Pattern.Correspondence

set_option autoImplicit false

/-! # Texts that a pattern takes -/

namespace BindingStubs.Pattern

open List

inductive Takes : Node → List Char → Prop
  | empty : Takes .empty []
  | set {cs : CharSet} {c : Char} (hc : cs.has c = true) : Takes (.set cs) [c]
  | seq {a b : Node} {u v : List Char} (hu : Takes a u) (hv : Takes b v) :
      Takes (.seq a b) (u ++ v)
  | left {a b : Node} {w : List Char} (h : Takes a w) : Takes (.alt a b) w
  | right {a b : Node} {w : List Char} (h : Takes b w) : Takes (.alt a b) w
  | capture {index : Nat} {body : Node} {w : List Char} (h : Takes body w) :
      Takes (.capture index body) w
  | many {cs : CharSet} {atLeast : Nat} {w : List Char} (hlength : atLeast ≤ w.length)
      (hw : ∀ c ∈ w, cs.has c = true) : Takes (.rounds (.set cs) atLeast none .most) w
  | missing {body : Node} : Takes (.rounds body 0 (some 1) .most) []
  | once {body : Node} {w : List Char} (h : Takes body w) :
      Takes (.rounds body 0 (some 1) .most) w

def Node.isRegular : Node → Bool
  | .empty => true
  | .set _ => true
  | .seq a b => a.isRegular && b.isRegular
  | .alt a b => a.isRegular && b.isRegular
  | .capture _ body => body.isRegular
  | .rounds (.set _) _ atMost greed => atMost.isNone && greed == .most
  | .rounds body 0 (some 1) .most => body.isRegular
  | _ => false

section
variable {w : List Char}

@[simp] theorem takes_empty : Takes .empty w ↔ w = [] := by
  constructor
  · rintro ⟨⟩
    rfl
  · rintro rfl
    exact .empty

@[simp] theorem takes_set {cs : CharSet} : Takes (.set cs) w ↔ ∃ c, cs.has c = true ∧ w = [c] := by
  constructor
  · rintro ⟨⟩
    exact ⟨_, ‹_›, rfl⟩
  · rintro ⟨c, hc, rfl⟩
    exact .set hc

@[simp] theorem takes_seq {a b : Node} :
    Takes (.seq a b) w ↔ ∃ u v, Takes a u ∧ Takes b v ∧ w = u ++ v := by
  constructor
  · rintro ⟨⟩
    exact ⟨_, _, ‹_›, ‹_›, rfl⟩
  · rintro ⟨u, v, hu, hv, rfl⟩
    exact .seq hu hv

@[simp] theorem takes_alt {a b : Node} : Takes (.alt a b) w ↔ Takes a w ∨ Takes b w := by
  constructor
  · rintro ⟨⟩
    · exact .inl ‹_›
    · exact .inr ‹_›
  · exact fun h => h.elim .left .right

@[simp] theorem takes_capture {index : Nat} {body : Node} :
    Takes (.capture index body) w ↔ Takes body w := by
  constructor
  · rintro ⟨⟩
    assumption
  · exact .capture

@[simp] theorem takes_many {cs : CharSet} {atLeast : Nat} :
    Takes (.rounds (.set cs) atLeast none .most) w ↔
      atLeast ≤ w.length ∧ ∀ c ∈ w, cs.has c = true := by
  constructor
  · rintro ⟨⟩
    exact ⟨‹_›, ‹_›⟩
  · exact fun ⟨hlength, hw⟩ => .many hlength hw

@[simp] theorem takes_optional {body : Node} :
    Takes (.rounds body 0 (some 1) .most) w ↔ w = [] ∨ Takes body w := by
  constructor
  · rintro ⟨⟩
    · exact .inl rfl
    · exact .inr ‹_›
  · rintro (rfl | h)
    · exact .missing
    · exact .once h

theorem takes_sequence_cons {item : Item} {items : List Item} :
    Takes (sequence (item :: items)) w ↔
      ∃ u v, Takes item.node u ∧ Takes (sequence items) v ∧ w = u ++ v := by
  cases items with
  | nil => simp [sequence]
  | cons next items => exact takes_seq

theorem takes_sequence_append {items more : List Item} :
    Takes (sequence (items ++ more)) w ↔
      ∃ u v, Takes (sequence items) u ∧ Takes (sequence more) v ∧ w = u ++ v := by
  induction items generalizing w with
  | nil => simp [sequence]
  | cons item items ih =>
    rw [cons_append, takes_sequence_cons]
    constructor
    · rintro ⟨u, v, hu, hv, rfl⟩
      obtain ⟨v₁, v₂, hv₁, hv₂, rfl⟩ := ih.1 hv
      exact ⟨u ++ v₁, v₂, takes_sequence_cons.2 ⟨u, v₁, hu, hv₁, rfl⟩, hv₂, by simp⟩
    · rintro ⟨u, v, hu, hv, rfl⟩
      obtain ⟨u₁, u₂, hu₁, hu₂, rfl⟩ := takes_sequence_cons.1 hu
      exact ⟨u₁, u₂ ++ v, hu₁, ih.2 ⟨u₂, v, hu₂, hv, rfl⟩, by simp⟩

theorem takes_alternatives {branches : List (List Item)} (hne : branches ≠ []) :
    Takes (alternatives branches) w ↔ ∃ items ∈ branches, Takes (sequence items) w := by
  induction branches with
  | nil => exact absurd rfl hne
  | cons items branches ih =>
    cases branches with
    | nil => simp [alternatives]
    | cons other branches =>
      refine takes_alt.trans ?_
      rw [ih (cons_ne_nil _ _)]
      simp only [mem_cons, exists_eq_or_imp]

theorem takes_charItem (flags : Flags) (hflags : flags.folding = .none) {c : Char} :
    Takes (charItem flags c.toNat).node w ↔ w = [c] := by
  rw [charItem, hflags, takes_set]
  constructor
  · rintro ⟨d, hd, rfl⟩
    rw [has_charItem, beq_iff_eq] at hd
    rw [hd]
  · rintro rfl
    exact ⟨c, (has_charItem c c).trans (beq_self_eq_true c), rfl⟩

theorem takes_literal (flags : Flags) (hflags : flags.folding = .none) {name : List Char} :
    Takes (sequence (literalItems flags name)) w ↔ w = name := by
  induction name generalizing w with
  | nil => exact takes_empty
  | cons c name ih =>
    refine takes_sequence_cons.trans ?_
    constructor
    · rintro ⟨u, v, hu, hv, rfl⟩
      rw [(takes_charItem flags hflags).1 hu, ih.1 hv, singleton_append]
    · rintro rfl
      exact ⟨[c], name, (takes_charItem flags hflags).2 rfl, ih.2 rfl, rfl⟩

end

theorem isRegular_sequence {items : List Item} (h : ∀ item ∈ items, item.node.isRegular = true) :
    (sequence items).isRegular = true := by
  induction items with
  | nil => rfl
  | cons item items ih =>
    have hitem := h item mem_cons_self
    have hitems := ih fun i hi => h i (mem_cons_of_mem _ hi)
    cases items with
    | nil => exact hitem
    | cons next items => exact Bool.and_eq_true_iff.2 ⟨hitem, hitems⟩

section
variable {text before after : List Char} {caught : List (Nat × Nat × Nat)} {next : Next}
variable {has : Char → Bool}

theorem longest_eq_some {r : Spot} (h : longest has next (.between before after caught) = some r) :
    ∃ u rest, after = u ++ rest ∧ (∀ c ∈ u, has c = true) ∧
      next (.between (before ++ u) rest caught) = some r := by
  induction after generalizing before with
  | nil =>
    rw [longest_nil] at h
    exact ⟨[], [], rfl, forall_mem_nil _, by rwa [append_nil]⟩
  | cons c after ih =>
    have hhere (hnext : next (.between before (c :: after) caught) = some r) :
        ∃ u rest, c :: after = u ++ rest ∧ (∀ c ∈ u, has c = true) ∧
          next (.between (before ++ u) rest caught) = some r :=
      ⟨[], c :: after, rfl, forall_mem_nil _, by rwa [append_nil]⟩
    cases hc : has c with
    | false =>
      rw [longest_of_not hc] at h
      exact hhere h
    | true =>
      rw [longest_of_has hc, Option.or_eq_some_iff] at h
      rcases h with h | ⟨-, h⟩
      · obtain ⟨u, rest, rfl, hu, hnext⟩ := ih h
        refine ⟨c :: u, rest, rfl, forall_mem_cons.2 ⟨hc, hu⟩, ?_⟩
        rwa [append_assoc, singleton_append] at hnext
      · exact hhere h

theorem isSome_longest {u rest : List Char} (hu : ∀ c ∈ u, has c = true)
    (hnext : (next (.between (before ++ u) rest caught)).isSome = true) :
    (longest has next (.between before (u ++ rest) caught)).isSome = true := by
  induction u generalizing before with
  | nil =>
    rw [append_nil] at hnext
    cases rest with
    | nil => rwa [append_nil, longest_nil]
    | cons c rest =>
      cases hc : has c with
      | false => rwa [nil_append, longest_of_not hc]
      | true => rw [nil_append, longest_of_has hc, Option.isSome_or, hnext, Bool.or_true]
  | cons c u ih =>
    have hrest : (longest has next (.between (before ++ [c]) (u ++ rest) caught)).isSome = true := by
      refine ih (fun d hd => hu d (mem_cons_of_mem c hd)) ?_
      rwa [append_assoc, singleton_append]
    rw [cons_append, longest_of_has (hu c mem_cons_self), Option.isSome_or, hrest,
      Bool.true_or]

theorem exactly?_succ {n : Nat} {c : Char} :
    exactly? has (n + 1) (.between before (c :: after) caught) =
      if has c then exactly? has n (.between (before ++ [c]) after caught) else none := by
  rw [← Spot.move_between]
  rfl

theorem exactly?_eq_some {n : Nat} {t : Spot}
    (h : exactly? has n (.between before after caught) = some t) :
    ∃ u rest, after = u ++ rest ∧ u.length = n ∧ (∀ c ∈ u, has c = true) ∧
      t = .between (before ++ u) rest caught := by
  induction n generalizing before after with
  | zero =>
    cases h
    exact ⟨[], after, rfl, rfl, forall_mem_nil _, by rw [append_nil]⟩
  | succ n ih =>
    cases after with
    | nil => cases h
    | cons c after =>
      rw [exactly?_succ] at h
      split_ifs at h with hc
      obtain ⟨u, rest, rfl, hlength, hu, rfl⟩ := ih h
      exact ⟨c :: u, rest, rfl, by rw [length_cons, hlength], forall_mem_cons.2 ⟨hc, hu⟩,
        by simp⟩

theorem exactly?_append {u : List Char} (hu : ∀ c ∈ u, has c = true) (rest : List Char) :
    exactly? has u.length (.between before (u ++ rest) caught) =
      some (.between (before ++ u) rest caught) := by
  induction u generalizing before with
  | nil =>
    rw [append_nil]
    rfl
  | cons c u ih =>
    rw [length_cons, cons_append, exactly?_succ, hu c mem_cons_self, if_pos rfl,
      ih fun d hd => hu d (mem_cons_of_mem c hd), append_assoc, singleton_append]

theorem run_many {cs : CharSet} {atLeast : Nat} {s : Spot} :
    run text (.rounds (.set cs) atLeast none .most) s next =
      (exactly? cs.has atLeast s).bind (longest cs.has next) := by
  change runSet cs.has atLeast none .most s next = _
  rw [runSet]
  cases exactly? cs.has atLeast s <;> rfl

theorem run_one_or_none (body : Node) {s : Spot} :
    run text (.rounds body 0 (some 1) .most) s next = (run text body s next).or (next s) := by
  cases body with
  | set cs =>
    change firstOf next (spread cs.has (some 1) s.rest s []) = _
    rw [run]
    rcases s with ⟨passed, _ | ⟨c, rest⟩, place, left, caught⟩
    · exact firstOf_singleton next _
    · dsimp only [spread]
      rw [if_neg (by decide)]
      split_ifs
      · cases rest <;> exact (firstOf_append [_] [_]).trans (by simp only [firstOf_singleton])
      · exact firstOf_singleton next _
  | _ => exact run_optional fun cs h => Node.noConfusion h

theorem exists_takes_of_run {node : Node} (hnode : node.isRegular = true) {r : Spot}
    (h : run text node (.between before after caught) next = some r) :
    ∃ w rest caught', after = w ++ rest ∧ Takes node w ∧
      next (.between (before ++ w) rest caught') = some r := by
  induction node using Node.isRegular.induct generalizing before after caught next with
  | case1 => exact ⟨[], after, caught, rfl, .empty, by rwa [append_nil]⟩
  | case2 cs =>
    cases after with
    | nil => cases h
    | cons c after =>
      rw [run_set_cons] at h
      split_ifs at h with hc
      exact ⟨[c], after, caught, rfl, .set hc, h⟩
  | case3 a b iha ihb =>
    rw [Node.isRegular, Bool.and_eq_true] at hnode
    obtain ⟨u, rest, caught₁, rfl, hu, h⟩ := iha hnode.1 h
    obtain ⟨v, rest, caught₂, rfl, hv, h⟩ := ihb hnode.2 h
    exact ⟨u ++ v, rest, caught₂, (append_assoc u v rest).symm, .seq hu hv,
      by rwa [← append_assoc]⟩
  | case4 a b iha ihb =>
    rw [Node.isRegular, Bool.and_eq_true] at hnode
    rw [run_alt, Option.or_eq_some_iff] at h
    rcases h with h | ⟨-, h⟩
    · obtain ⟨w, rest, caught', hw, ha, h⟩ := iha hnode.1 h
      exact ⟨w, rest, caught', hw, .left ha, h⟩
    · obtain ⟨w, rest, caught', hw, hb, h⟩ := ihb hnode.2 h
      exact ⟨w, rest, caught', hw, .right hb, h⟩
  | case5 index body ih =>
    obtain ⟨w, rest, caught', hw, hbody, h⟩ := ih hnode h
    exact ⟨w, rest, _, hw, .capture hbody, h⟩
  | case6 cs atLeast atMost greed =>
    rw [Node.isRegular, Bool.and_eq_true, Option.isNone_iff_eq_none, beq_iff_eq] at hnode
    obtain ⟨rfl, rfl⟩ := hnode
    rw [run_many, Option.bind_eq_some_iff] at h
    obtain ⟨t, ht, h⟩ := h
    obtain ⟨u, rest, rfl, hlength, hu, rfl⟩ := exactly?_eq_some ht
    obtain ⟨v, rest, rfl, hv, h⟩ := longest_eq_some h
    refine ⟨u ++ v, rest, caught, (append_assoc u v rest).symm, .many ?_ ?_, ?_⟩
    · rw [length_append]
      omega
    · exact forall_mem_append.2 ⟨hu, hv⟩
    · rwa [← append_assoc]
  | case7 body hbody ih =>
    rw [Node.isRegular] at hnode
    · rw [run_one_or_none, Option.or_eq_some_iff] at h
      rcases h with h | ⟨-, h⟩
      · obtain ⟨w, rest, caught', hw, htakes, h⟩ := ih hnode h
        exact ⟨w, rest, caught', hw, .once htakes, h⟩
      · exact ⟨[], after, caught, rfl, .missing, by rwa [append_nil]⟩
    · exact hbody
  | case8 node =>
    rw [Node.isRegular] at hnode
    · cases hnode
    all_goals assumption

theorem isSome_run {node : Node} {w : List Char} (hw : Takes node w) {rest : List Char}
    (hnext : ∀ caught', (next (.between (before ++ w) rest caught')).isSome = true) :
    (run text node (.between before (w ++ rest) caught) next).isSome = true := by
  induction hw generalizing before rest caught next with
  | empty => exact append_nil before ▸ hnext caught
  | set hc =>
    rw [singleton_append, run_set_cons, if_pos hc]
    exact hnext caught
  | seq hu hv ihu ihv =>
    rw [run_seq, append_assoc]
    refine ihu fun caught₁ => ihv fun caught₂ => ?_
    rw [append_assoc]
    exact hnext caught₂
  | left h ih => rw [run_alt, Option.isSome_or, ih hnext, Bool.true_or]
  | right h ih => rw [run_alt, Option.isSome_or, ih hnext, Bool.or_true]
  | capture h ih => exact ih fun caught' => hnext _
  | @many cs atLeast w hlength hw =>
    -- the characters that the repetition demands, and those that it takes beyond them
    have htake : (w.take atLeast).length = atLeast := length_take_of_le hlength
    have hfirst : exactly? cs.has atLeast (.between before (w ++ rest) caught) =
        some (.between (before ++ w.take atLeast) (w.drop atLeast ++ rest) caught) := by
      have htaken : ∀ c ∈ w.take atLeast, cs.has c = true :=
        fun c hc => hw c (mem_of_mem_take hc)
      rw [← exactly?_append htaken, htake, ← append_assoc, take_append_drop]
    rw [run_many, hfirst, Option.bind_some]
    refine isSome_longest (fun c hc => hw c (mem_of_mem_drop hc)) ?_
    rw [append_assoc, take_append_drop]
    exact hnext caught
  | missing =>
    rw [run_one_or_none, Option.isSome_or, Bool.or_eq_true]
    rw [append_nil] at hnext
    exact .inr (hnext caught)
  | once h ih => rw [run_one_or_none, Option.isSome_or, ih hnext, Bool.true_or]

section
variable {node : Node}

theorem run_eq_none_iff (hnode : node.isRegular = true) :
    run text node (.between before after caught) some = none ↔
      ∀ w, Takes node w → ¬ w <+: after := by
  rw [Option.eq_none_iff_forall_ne_some]
  constructor
  · rintro h w hw ⟨rest, rfl⟩
    have hfound : (run text node (.between before (w ++ rest) caught) some).isSome = true :=
      isSome_run hw fun _ => rfl
    obtain ⟨r, hr⟩ := Option.isSome_iff_exists.1 hfound
    exact h r hr
  · intro h r hr
    obtain ⟨w, rest, caught', rfl, hw, -⟩ := exists_takes_of_run hnode hr
    exact h w hw (prefix_append w rest)

theorem run_eq_some (hnode : node.isRegular = true) {w rest : List Char} (hw : Takes node w)
    (honly : ∀ w', Takes node w' → w' <+: w ++ rest → w' = w) :
    ∃ caught', run text node (.between before (w ++ rest) caught) some =
      some (.between (before ++ w) rest caught') := by
  have hfound : (run text node (.between before (w ++ rest) caught) some).isSome = true :=
    isSome_run hw fun _ => rfl
  obtain ⟨r, hr⟩ := Option.isSome_iff_exists.1 hfound
  obtain ⟨w', rest', caught', hsplit, hw', hlast⟩ := exists_takes_of_run hnode hr
  obtain rfl := honly w' hw' (hsplit ▸ prefix_append w' rest')
  rw [← append_cancel_left hsplit] at hlast
  exact ⟨caught', hr.trans hlast.symm⟩

end

/-- No text that the node takes starts in `word` if `after` comes next. -/
def Clear (node : Node) (word after : List Char) : Prop :=
  ∀ u v, u ++ v = word → v ≠ [] → ∀ w, Takes node w → ¬ w <+: v ++ after

theorem Clear.append {node : Node} {word word' after : List Char}
    (h : Clear node word (word' ++ after)) (h' : Clear node word' after) :
    Clear node (word ++ word') after := by
  intro u v huv hv
  rcases append_eq_append_iff.1 huv with ⟨middle, rfl, hv'⟩ | ⟨middle, rfl, hword'⟩
  · by_cases hmiddle : middle = []
    · rw [hmiddle, nil_append] at hv'
      exact h' [] v hv' hv
    · rw [hv', append_assoc]
      exact h u middle rfl hmiddle
  · exact h' middle v hword'.symm hv

theorem Clear.not_within {node : Node} {word w : List Char} (h : Clear node word [])
    (hw : Takes node w) (hne : w ≠ []) : ¬ w <:+: word := by
  rintro ⟨u, rest, rfl⟩
  refine h u (w ++ rest) (append_assoc u w rest).symm (append_ne_nil_of_left_ne_nil hne _)
    w hw ?_
  rw [append_nil]
  exact prefix_append w rest

theorem Clear.scan {r : Regex} (hr : r.node.isRegular = true) {word : List Char}
    (h : Clear r.node word after) :
    r.scan text false (word ++ after) (.between before (word ++ after) caught) =
      r.scan text false after (.between (before ++ word) after caught) :=
  Regex.scan_append fun u v huv hv => (run_eq_none_iff hr).2 (h u v huv hv)

theorem Clear.scan_eq_some {r : Regex} (hr : r.node.isRegular = true) {word w rest : List Char}
    (hword : Clear r.node word (w ++ rest)) (hw : Takes r.node w)
    (honly : ∀ w', Takes r.node w' → w' <+: w ++ rest → w' = w) :
    ∃ caught', r.scan text false (word ++ (w ++ rest))
        (.between before (word ++ (w ++ rest)) caught) =
      some ((before ++ word).length, .between (before ++ word ++ w) rest caught') := by
  obtain ⟨caught', hrun⟩ := run_eq_some hr hw honly
  refine ⟨caught', ?_⟩
  rw [hword.scan hr, Regex.scan_of_run hrun]
  rfl

theorem scan_eq_none_iff {r : Regex} (hr : r.node.isRegular = true) :
    r.scan text false after (.between before after caught) = none ↔
      ∀ w, Takes r.node w → ¬ w <:+: after := by
  induction after generalizing before with
  | nil =>
    rw [Regex.scan_nil, Option.map_eq_none_iff, run_eq_none_iff hr]
    simp only [prefix_nil, infix_nil]
  | cons c after ih =>
    rw [Regex.scan_cons, Option.or_eq_none_iff, Option.map_eq_none_iff, run_eq_none_iff hr, ih]
    simp only [infix_cons_iff, not_or]
    exact ⟨fun h w hw => ⟨h.1 w hw, h.2 w hw⟩, fun h => ⟨fun w hw => (h w hw).1, fun w hw => (h w hw).2⟩⟩

end

namespace Regex

theorem spotAt_zero (text : List Char) : spotAt text 0 = .between [] text [] := by
  simp [spotAt, Spot.between]

theorem search_eq (r : Regex) (text : List Char) :
    r.search (String.ofList text) =
      (r.scan text false text (.between [] text [])).map (toMatch text) := by
  rw [search, String.toList_ofList, searchIn, take_length, if_neg (Nat.not_lt_zero _),
    spotAt_zero]
  rfl

theorem search_eq_none_iff {r : Regex} (hr : r.node.isRegular = true) {text : List Char} :
    r.search (String.ofList text) = none ↔ ∀ w, Takes r.node w → ¬ w <:+: text := by
  rw [search_eq, Option.map_eq_none_iff, scan_eq_none_iff hr]

theorem allMatches_eq (r : Regex) (text : List Char) :
    r.allMatches (String.ofList text) =
      r.matchesLoop text (2 * text.length + 2) false (.between [] text []) := by
  rw [allMatches, String.toList_ofList, matchesIn, take_length, if_neg (Nat.not_lt_zero _),
    spotAt_zero]

end Regex

end BindingStubs.Pattern
