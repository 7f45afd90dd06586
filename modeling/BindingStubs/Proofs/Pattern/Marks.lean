import BindingStubs.Proofs.ClassSection.Heads

set_option autoImplicit false

/-! # Names, marks and gaps -/

namespace BindingStubs.Pattern

open Inference ClassSection List

theorem notMem_specialChars_of_all {cs : List Char}
    (h : cs.all (fun c => !specialChars.contains c) = true) : ∀ c ∈ cs, c ∉ specialChars := by
  simpa using h

theorem read_name_append {back name : String} {backItems : List Item} {last : ReadState} (b : Nat)
    (hne : name.toList ≠ []) (hname : ∀ c ∈ name.toList, c ∉ specialChars)
    (hfuel : b ≤ 3 * (tokens back.toList).length + 3)
    (hend : (tokens back.toList).head? ≠ some .stray)
    (hback : ∀ n read, (readItems (n + b) 0 true read).run { rest := tokens back.toList } =
      .ok (itemsOf (backItems.reverse.map .item ++ read), last))
    (hrest : last.rest = []) (hascii : last.flags.ascii = false) (hhighest : last.highest = 0)
    (hunfixed : last.unfixed = false) (honce : last.once = false) :
    Pattern.read {} (name ++ back) =
      .ok {
        node := sequence (literalItems {} name.toList ++ backItems)
        captures := last.next - 1
        names := last.names } := by
  have hread : Pattern.read {} ("" ++ name ++ back) = .ok {
      node := sequence ([] ++ literalItems {} name.toList ++ backItems)
      captures := last.next - 1
      names := last.names } :=
    read_between { rest := [] } hne hname (fun _ _ => rfl)
      (hfuel.trans (by rw [show tokens "".toList = [] from rfl, length_nil, Nat.zero_add]))
      (fun _ => rfl) (by decide) hend (fun _ _ _ => rfl) hback rfl hrest hascii hhighest hunfixed
      honce
  rwa [String.empty_append] at hread

def gapItem : Item := ⟨.repeated, manyOfSet blankSet 0⟩

def markItem (c : Char) : Item := charItem {} c.toNat

def allBut (c : Char) : CharSet := { negated := true, items := [.char c.toNat] }

theorem has_allBut (c d : Char) : (allBut c).has d = true ↔ d ≠ c := by
  rw [allBut, has_set, any_cons, any_nil, Bool.or_false, has_char, Bool.bne_true,
    Bool.not_eq_true', beq_eq_false_iff_ne, ne_comm, Ne, Char.toNat_inj]

section
variable {w : List Char} {items : List Item}

theorem takes_gap_cons : Takes (sequence (gapItem :: items)) w ↔
    ∃ a v, IsGap a ∧ Takes (sequence items) v ∧ w = a ++ v := by
  simp only [takes_sequence_cons, gapItem, takes_manyBlanks, Nat.zero_le, true_and]

theorem takes_mark_cons {c : Char} : Takes (sequence (markItem c :: items)) w ↔
    ∃ v, Takes (sequence items) v ∧ w = c :: v := by
  simp [takes_sequence_cons, markItem, takes_charItem {} rfl]

theorem takes_literal_append {word : List Char} :
    Takes (sequence (literalItems {} word ++ items)) w ↔
      ∃ v, Takes (sequence items) v ∧ w = word ++ v := by
  simp [takes_sequence_append, takes_literal {} rfl]

theorem isRegular_literal_append {word : List Char}
    (h : items.all (·.node.isRegular) = true) :
    (sequence (literalItems {} word ++ items)).isRegular = true := by
  refine isRegular_sequence (forall_mem_append.2 ⟨?_, all_eq_true.1 h⟩)
  intro item hitem
  obtain ⟨c, -, rfl⟩ := mem_map.1 hitem
  rfl

end

section
variable {text before after : List Char} {caught : List (Nat × Nat × Nat)} {next : Next}
variable {items : List Item} {c : Char}

theorem run_literal_items {word : List Char} :
    run text (sequence (literalItems {} word ++ items)) (.between before (word ++ after) caught)
        next =
      run text (sequence items) (.between (before ++ word) after caught) next := by
  rw [run_sequence_append, run_literal_append]

theorem run_mark_cons :
    run text (sequence (markItem c :: items)) (.between before (c :: after) caught) next =
      run text (sequence items) (.between (before ++ [c]) after caught) next := by
  rw [run_sequence_cons]
  refine (run_set_cons _ c).trans ?_
  rw [show Flags.folding {} = .none from rfl, has_charItem, beq_self_eq_true, if_pos rfl]

theorem run_mark_of_ne {d : Char} (hd : d ≠ c) :
    run text (sequence (markItem c :: items)) (.between before (d :: after) caught) next =
      none := by
  rw [run_sequence_cons]
  refine (run_set_cons _ d).trans ?_
  rw [show Flags.folding {} = .none from rfl, has_charItem, beq_eq_false_iff_ne.2 hd.symm,
    if_neg Bool.false_ne_true]

theorem run_gap_cons {s : Spot} :
    run text (sequence (gapItem :: items)) s next =
      longest blankSet.has (fun t => run text (sequence items) t next) s := by
  rw [run_sequence_cons]
  exact run_many

theorem run_gap_of_not (hafter : after.head? = some c) (hc : Text.isBlank c = false) :
    run text (sequence (gapItem :: items)) (.between before after caught) next =
      run text (sequence items) (.between before after caught) next := by
  obtain ⟨others, rfl⟩ := head?_eq_some_iff.1 hafter
  rw [run_gap_cons, longest_of_not (by rw [has_blankSet, hc])]

theorem run_gap_append {gap : List Char} (hgap : IsGap gap) (hc : Text.isBlank c = false) {r : Spot}
    (h : run text (sequence items) (.between (before ++ gap) (c :: after) caught) next = some r) :
    run text (sequence (gapItem :: items)) (.between before (gap ++ c :: after) caught) next =
      some r := by
  induction gap generalizing before with
  | nil =>
    rw [append_nil] at h
    rw [nil_append, run_gap_of_not rfl hc, h]
  | cons b gap ih =>
    rw [IsGap, forall_mem_cons] at hgap
    have hrest : run text (sequence (gapItem :: items))
        (.between (before ++ [b]) (gap ++ c :: after) caught) next = some r :=
      ih hgap.2 (by simpa using h)
    rw [run_gap_cons] at hrest
    rw [run_gap_cons, cons_append, longest_of_has (by rw [has_blankSet, hgap.1]), hrest,
      Option.some_or]

theorem run_fewest_mark {stretch : List Char} {cs : CharSet} {kind : ItemKind}
    (hstretch : ∀ d ∈ stretch, cs.has d = true ∧ d ≠ c) :
    run text (sequence [⟨kind, .rounds (.set cs) 0 none .least⟩, markItem c])
        (.between before (stretch ++ c :: after) caught) some =
      some (.between (before ++ stretch ++ [c]) after caught) := by
  change fewest cs.has (fun t => run text (sequence [markItem c]) t some) none
    (stretch ++ c :: after) _ = _
  induction stretch generalizing before with
  | nil =>
    rw [nil_append, fewest, run_mark_cons, append_nil]
    rfl
  | cons d stretch ih =>
    obtain ⟨hd, hstretch⟩ := forall_mem_cons.1 hstretch
    rw [cons_append, fewest, run_mark_of_ne hd.2]
    dsimp only
    rw [if_neg (by decide), if_pos hd.1, Spot.move_between, Option.map_none, ih hstretch]
    simp

end

theorem exists_goes_of_run {Q : Char → Prop} {node : Node} (hnode : node.Goes Q)
    {text before after : List Char} {caught : List (Nat × Nat × Nat)} {next : Next} {r : Spot}
    (h : run text node (.between before after caught) next = some r) :
    ∃ u rest caught', after = u ++ rest ∧ (∀ c ∈ u, Q c) ∧
      next (.between (before ++ u) rest caught') = some r := by
  have hkept : Kept Q fun s => ∃ u rest caught', after = u ++ rest ∧ (∀ c ∈ u, Q c) ∧
      s = .between (before ++ u) rest caught' := by
    refine ⟨?_, ?_⟩
    · rintro _ c rest hrest hc ⟨u, _, caught', rfl, hu, rfl⟩
      obtain rfl : _ = c :: rest := hrest
      refine ⟨u ++ [c], rest, caught', by simp, ?_, ?_⟩
      · exact forall_mem_append.2 ⟨hu, by simpa using hc⟩
      · rw [Spot.move_between, append_assoc]
    · rintro _ caught' ⟨u, rest, _, hafter, hu, rfl⟩
      exact ⟨u, rest, caught', hafter, hu, rfl⟩
  obtain ⟨_, ⟨u, rest, caught', hafter, hu, rfl⟩, hnext⟩ := hkept.run text hnode
    ⟨[], after, caught, rfl, forall_mem_nil _, by rw [append_nil]⟩ h
  exact ⟨u, rest, caught', hafter, hu, hnext⟩

def Barren (r : Regex) (word after : List Char) : Prop :=
  ∀ text before caught u v, u ++ v = word → v ≠ [] →
    run text r.node (.between before (v ++ after) caught) some = none

section
variable {r : Regex} {text before word after : List Char} {caught : List (Nat × Nat × Nat)}

theorem Barren.append {word' : List Char} (h : Barren r word (word' ++ after))
    (h' : Barren r word' after) : Barren r (word ++ word') after := by
  intro text before caught u v huv hv
  rcases append_eq_append_iff.1 huv with ⟨middle, rfl, rfl⟩ | ⟨middle, rfl, hword'⟩
  · by_cases hmiddle : middle = []
    · rw [hmiddle]
      exact h' text before caught [] word' rfl fun h => hv (by rw [hmiddle, h, append_nil])
    · rw [append_assoc]
      exact h text before caught u middle rfl hmiddle
  · exact h' text before caught middle v hword'.symm hv

theorem barren_flatMap {α : Type} {f : α → List Char} {parts : List α}
    (h : ∀ p ∈ parts, ∀ after, Barren r (f p) after) : Barren r (parts.flatMap f) after := by
  induction parts with
  | nil =>
    intro text before caught u v huv hv
    exact absurd (append_eq_nil_iff.1 huv).2 hv
  | cons p parts ih =>
    rw [forall_mem_cons] at h
    exact (h.1 _).append (ih h.2)

theorem Barren.scan (h : Barren r word after) :
    r.scan text false (word ++ after) (.between before (word ++ after) caught) =
      r.scan text false after (.between (before ++ word) after caught) :=
  Regex.scan_append fun u v huv hv => h text _ caught u v huv hv

theorem Barren.matchesLoop (h : Barren r word after) (fuel : Nat) :
    r.matchesLoop text fuel false (.between before (word ++ after) []) =
      r.matchesLoop text fuel false (.between (before ++ word) after []) := by
  cases fuel with
  | zero => rfl
  | succ fuel =>
    have hscan : r.scan text false (Spot.between before (word ++ after) []).rest
        (.between before (word ++ after) []) =
      r.scan text false (Spot.between (before ++ word) after []).rest
        (.between (before ++ word) after []) := h.scan
    rw [Regex.matchesLoop, Regex.matchesLoop, hscan]

theorem barren_of_literal {name : List Char} {items : List Item}
    (hnode : r.node = sequence (literalItems {} name ++ items))
    (h : ∀ u v, u ++ v = word → v ≠ [] → ¬ name <+: v ++ after) : Barren r word after := by
  intro text before caught u v huv hv
  rw [hnode, run_sequence_append, run_literal_eq_none (h u v huv hv)]

end

theorem exists_concat_of_append {word u v : List Char} {c : Char} (h : u ++ v = word ++ [c])
    (hv : v ≠ []) : ∃ v', u ++ v' = word ∧ v = v' ++ [c] := by
  obtain ⟨v', d, rfl⟩ := (eq_nil_or_concat' v).resolve_left hv
  rw [← append_assoc] at h
  obtain ⟨hword, hc⟩ := append_inj' h rfl
  exact ⟨v', hword, by rw [hc]⟩

section
variable {r : Regex} {name word after : List Char} {items : List Item}

section
variable (hnode : r.node = sequence (literalItems {} name ++ items))
include hnode

theorem barren_stretch {c : Char}
    (hc : c ∉ name) (h : ¬ name <:+: word) : Barren r (word ++ [c]) after := by
  refine barren_of_literal hnode fun u v huv hv hstarts => ?_
  obtain ⟨v', rfl, rfl⟩ := exists_concat_of_append huv hv
  rw [append_assoc, singleton_append] at hstarts
  exact h ((Chars.prefix_of_notMem hc hstarts).isInfix.trans (suffix_append u v').isInfix)

theorem barren_gap {c : Char}
    (hname : name.head? = some c) (hc : Text.isBlank c = false) (hword : IsGap word) :
    Barren r word after := by
  refine barren_of_literal hnode fun u v huv hv hstarts => ?_
  obtain ⟨others, rfl⟩ := head?_eq_some_iff.1 hname
  obtain ⟨d, v, rfl⟩ := exists_cons_of_ne_nil hv
  obtain rfl : c = d := (cons_prefix_cons.1 hstarts).1
  have hblank := hword c (huv ▸ mem_append_right u mem_cons_self)
  rw [hblank] at hc
  cases hc

theorem barren_unbordered
    (hname : ∀ i < name.length, 0 < i → ¬ name.drop i <+: name) (h : ¬ name <:+: word) :
    Barren r word (name ++ after) := by
  refine barren_of_literal hnode fun u v huv hv hstarts => ?_
  rcases prefix_or_prefix_of_prefix hstarts (prefix_append v (name ++ after)) with
    hinside | ⟨others, hothers⟩
  · exact h (hinside.isInfix.trans (huv ▸ (suffix_append u v).isInfix))
  · rw [← hothers, prefix_append_right_inj, hothers] at hstarts
    have hlength : v.length + others.length = name.length := by rw [← hothers, length_append]
    have hpos := length_pos_iff.2 hv
    by_cases hall : others = []
    · exact h ⟨u, [], by rw [← hothers, hall, append_nil, append_nil, huv]⟩
    · have hothersPos := length_pos_iff.2 hall
      have hdrop : name.drop v.length = others := by rw [← hothers, drop_left]
      refine hname v.length (by omega) hpos (hdrop ▸ ?_)
      exact prefix_of_prefix_length_le hstarts (prefix_append _ _) (by omega)

end

end

section
variable {r : Regex} {text before word after : List Char} {caught : List (Nat × Nat × Nat)}

theorem matchesLoop_of_run (hr : r.Moves text)
    (h : run text r.node (.between before (word ++ after) []) some =
      some (.between (before ++ word) after caught)) (fuel : Nat) :
    r.matchesLoop text (fuel + 1) false (.between before (word ++ after) []) =
      ⟨text, before.length, (before ++ word).length, caught⟩ ::
        r.matchesLoop text fuel false (.between (before ++ word) after []) :=
  hr.matchesLoop (Regex.scan_of_run h) fuel

theorem matchesLoop_nil (h : run text r.node (.between before [] []) some = none) (fuel : Nat) :
    r.matchesLoop text fuel false (.between before [] []) = [] :=
  Regex.matchesLoop_of_none ((Regex.scan_nil _).trans (by rw [h, Option.map_none])) fuel

theorem matchesIn_append (pre post rest : List Char) :
    r.matchesIn (pre ++ post ++ rest) pre.length (pre ++ post).length =
      r.matchesLoop (pre ++ post) (2 * (pre ++ post).length + 2) false (.between pre post []) := by
  have hspot : Regex.spotAt (pre ++ post) pre.length = .between pre post [] := by
    simp [Regex.spotAt, Spot.between]
  rw [Regex.matchesIn, take_left, if_neg (by simp), hspot]

theorem matchesIn_zero (text rest : List Char) :
    r.matchesIn (text ++ rest) 0 text.length =
      r.matchesLoop text (2 * text.length + 2) false (.between [] text []) :=
  matchesIn_append [] text rest

theorem group?_of_caught {part rest : List Char} {others : List (Nat × Nat × Nat)}
    (htext : text = before ++ (part ++ rest)) (index start stop : Nat) :
    (Match.mk text start stop
        ((index, before.length, (before ++ part).length) :: others)).group? index =
      some (String.ofList part) := by
  have hpart : (text.take (before ++ part).length).drop before.length = part := by
    rw [htext, ← append_assoc, take_left, drop_left]
  rw [Match.group?]
  simp only [find?_cons, beq_self_eq_true, Option.map_some, hpart]

/-- A run from some place of a text ends at a spot where it is accepted. -/
def Reached (r : Regex) (text : List Char) (found : Nat × Spot) : Prop :=
  ∃ before after caught next, text = before ++ after ∧ (∀ s t, next s = some t → t = s) ∧
    run text r.node (.between before after caught) next = some found.2 ∧ found.1 = before.length

theorem eq_of_accept {start : Nat} {mustMove : Bool} (s t : Spot)
    (h : Regex.accept start mustMove s = some t) : t = s := by
  rw [Regex.accept] at h
  split_ifs at h
  exact (Option.some.inj h).symm

theorem reached_of_scan (htext : text = before ++ after) {mustMove : Bool} {found : Nat × Spot}
    (h : r.scan text mustMove after (.between before after caught) = some found) :
    Reached r text found := by
  induction after generalizing before mustMove with
  | nil =>
    obtain ⟨t, ht, rfl⟩ := Option.map_eq_some_iff.1 h
    exact ⟨before, [], caught, _, htext, eq_of_accept, ht, rfl⟩
  | cons c after ih =>
    rw [Regex.scan] at h
    split at h
    · next t ht =>
      cases h
      exact ⟨before, c :: after, caught, _, htext, eq_of_accept, ht, rfl⟩
    · rw [Spot.move_between] at h
      exact ih (by rw [htext, append_assoc, singleton_append]) h

theorem Reached.exists_between {found : Nat × Spot} (h : Reached r text found) :
    ∃ before after caught, text = before ++ after ∧ found.2 = .between before after caught := by
  obtain ⟨before, after, caught, next, rfl, hnext, hrun, -⟩ := h
  obtain ⟨u, rest, caught', rfl, -, hlast⟩ := exists_goes_of_run r.node.goes_anywhere hrun
  exact ⟨before ++ u, rest, caught', (append_assoc before u rest).symm, hnext _ _ hlast⟩

theorem exists_reached_of_mem_matchesLoop (htext : text = before ++ after) {fuel : Nat}
    {mustMove : Bool} {m : Match}
    (h : m ∈ r.matchesLoop text fuel mustMove (.between before after caught)) :
    ∃ found, Reached r text found ∧ m = Regex.toMatch text found := by
  induction fuel generalizing before after caught mustMove with
  | zero => cases h
  | succ fuel ih =>
    rw [Regex.matchesLoop] at h
    split at h
    · cases h
    · next found hfound =>
      have hreached := reached_of_scan htext hfound
      rcases mem_cons.1 h with rfl | h
      · exact ⟨found, hreached, rfl⟩
      · obtain ⟨before', after', caught', htext', hspot⟩ := hreached.exists_between
        rw [hspot] at h
        exact ih htext' h

theorem exists_reached_of_mem_allMatches {content : String} {m : Match}
    (h : m ∈ r.allMatches content) :
    ∃ found, Reached r content.toList found ∧ m = Regex.toMatch content.toList found := by
  rw [← String.ofList_toList (s := content), Regex.allMatches_eq] at h
  exact exists_reached_of_mem_matchesLoop (nil_append _).symm h

end

end BindingStubs.Pattern
