import BindingStubs.Proofs.Pattern.Marks

set_option autoImplicit false

/-! # Definitions of classes -/

namespace BindingStubs.ClassSection

open Pattern Inference List

def spacedFlags : Flags := { spaced := true }

def basesSet : CharSet := { negated := true, items := [.char '\x7b'.toNat] }

def exportNode : Node := .seq (manyOfSet wordSet 1) (manyOfSet blankSet 1)

def keywordItems : List Item :=
  literalItems spacedFlags "class".toList ++
    [⟨.repeated, manyOfSet blankSet 1⟩, ⟨.repeated, .rounds exportNode 0 (some 1) .most⟩]

def bodyItems : List Item :=
  [⟨.repeated, manyOfSet blankSet 0⟩, ⟨.repeated, manyOfSet basesSet 0⟩,
    ⟨.single, .set (markSet '\x7b')⟩]

def keywordText : String := "class\\s+(?:\\w+\\s+)?\n"

def bodyText : String :=
  "\\s*      # name or alias in a single class\n" ++
    "[^\x7b]*              # optional inheritance\n\x7b                  # class body block\n"

def definitionRegex (name : List Char) : Regex where
  node := sequence (keywordItems ++ literalItems spacedFlags name ++ bodyItems)
  captures := 0
  names := []

set_option maxRecDepth 100000 in
theorem readItems_keywordText (n : Nat) (c : Char) (rest : List Token) :
    (readItems (n + 70) 0 true []).run
        { rest := tokens keywordText.toList ++ .plain c :: rest, flags := spacedFlags } =
      (readItems (n + 60) 0 true (keywordItems.reverse.map .item)).run
        { rest := .plain c :: rest, flags := spacedFlags } := by
  cbv

set_option maxRecDepth 100000 in
theorem readItems_bodyText (n : Nat) (read : List Written) :
    (readItems (n + 60) 0 true read).run { rest := tokens bodyText.toList, flags := spacedFlags } =
      .ok (itemsOf (bodyItems.reverse.map .item ++ read), { rest := [], flags := spacedFlags }) := by
  cbv

section
variable {name : String}

theorem isNameChar_of_mem (hname : Text.isIdentifier name = true) {c : Char}
    (hc : c ∈ name.toList) : Text.isNameChar c = true :=
  Text.IsNameLike.of_isIdentifier hname c hc

theorem brace_notMem (hname : Text.isIdentifier name = true) : '\x7b' ∉ name.toList :=
  fun h => absurd (isNameChar_of_mem hname h) (by decide)

theorem not_isNameChar_special {c : Char} (hc : c ∈ specialChars) : Text.isNameChar c = false := by
  have hall : specialChars.all (fun c => !Text.isNameChar c) = true := by decide
  simpa using all_eq_true.1 hall c hc

theorem isBlank_of_isSpacing {c : Char} (hc : isSpacing c = true) : Text.isBlank c = true := by
  simp only [isSpacing, Bool.or_eq_true, beq_iff_eq, Bool.and_eq_true, decide_eq_true_eq] at hc
  rcases hc with rfl | hc
  · decide
  · rw [Text.isBlank, if_pos (by omega)]
    simp only [Bool.or_eq_true, Bool.and_eq_true, decide_eq_true_eq]
    omega

theorem not_isNameChar_leftOut {c : Char} (hc : spacedFlags.leavesOut c = true) :
    Text.isNameChar c = false := by
  rw [Flags.leavesOut, Bool.and_eq_true, Bool.or_eq_true, beq_iff_eq] at hc
  rcases hc.2 with hspacing | rfl
  · exact Text.not_isNameChar_of_isBlank (isBlank_of_isSpacing hspacing)
  · decide

theorem read_definitionPattern (hname : Text.isIdentifier name = true) :
    Pattern.read spacedFlags (definitionPattern name) = .ok (definitionRegex name.toList) := by
  have hne : name.toList ≠ [] := by
    intro h
    rw [Text.isIdentifier, h] at hname
    cases hname
  have hordinary : ∀ c ∈ name.toList, c ∉ specialChars := by
    intro c hc hspecial
    exact absurd (isNameChar_of_mem hname hc) (by simp [not_isNameChar_special hspecial])
  have hkept : ∀ c ∈ name.toList, spacedFlags.leavesOut c = false := by
    intro c hc
    by_contra hout
    rw [Bool.not_eq_false] at hout
    exact absurd (isNameChar_of_mem hname hc) (by simp [not_isNameChar_leftOut hout])
  have hsplit : ∀ rest, tokens (keywordText.toList ++ rest) =
      tokens keywordText.toList ++ tokens rest := by
    intro rest
    cbv
  have htext : definitionPattern name = keywordText ++ name ++ bodyText := by
    exact String.append_assoc
  rw [htext]
  exact read_between { rest := [], flags := spacedFlags } hne hordinary hkept
    (by decide +kernel) hsplit (by decide) (by decide +kernel) readItems_keywordText readItems_bodyText rfl rfl rfl rfl rfl rfl

end

inductive IsExport : List Char → Prop
  | none : IsExport []
  | word {word gap : List Char} (hne : word ≠ []) (hword : ∀ c ∈ word, Text.isWord c = true)
      (hgapNe : gap ≠ []) (hgap : IsGap gap) : IsExport (word ++ gap)

inductive IsOpening (name : List Char) : List Char → Prop
  | mk {gap front bases : List Char} (hne : gap ≠ []) (hgap : IsGap gap) (hfront : IsExport front)
      (hbases : '\x7b' ∉ bases) :
      IsOpening name ("class".toList ++ (gap ++ front) ++ name ++ (bases ++ ['\x7b']))

section
variable {name w : List Char}

theorem has_wordSet (c : Char) : wordSet.has c = Text.isWord c := by
  rw [wordSet, has_set, any_cons, any_nil, Bool.or_false, has_kind, Bool.bne_false,
    Bool.bne_false]
  rfl

theorem has_basesSet (c : Char) : basesSet.has c = true ↔ c ≠ '\x7b' := has_allBut _ c

theorem takes_exportNode : Takes (.rounds exportNode 0 (some 1) .most) w ↔ IsExport w := by
  rw [takes_optional, exportNode, takes_seq]
  constructor
  · rintro (rfl | ⟨u, gap, hu, hgap, rfl⟩)
    · exact .none
    · obtain ⟨hword, hall⟩ := takes_many.1 hu
      obtain ⟨hlength, hgap⟩ := takes_manyBlanks.1 hgap
      simp only [has_wordSet] at hall
      exact .word (length_pos_iff.1 hword) hall (length_pos_iff.1 hlength) hgap
  · rintro (_ | ⟨hne, hword, hgapNe, hgap⟩)
    · exact .inl rfl
    · refine .inr ⟨_, _, .many (length_pos_iff.2 hne) ?_,
        takes_manyBlanks.2 ⟨length_pos_iff.2 hgapNe, hgap⟩, rfl⟩
      simpa only [has_wordSet] using hword

theorem takes_keywordItems :
    Takes (sequence keywordItems) w ↔ ∃ gap front, gap ≠ [] ∧ IsGap gap ∧ IsExport front ∧
      w = "class".toList ++ (gap ++ front) := by
  rw [keywordItems, takes_sequence_append]
  simp only [takes_literal spacedFlags rfl, Pattern.sequence, takes_seq, takes_exportNode,
    takes_manyBlanks]
  constructor
  · rintro ⟨u, v, rfl, ⟨gap, front, ⟨hlength, hgap⟩, hfront, rfl⟩, rfl⟩
    exact ⟨gap, front, length_pos_iff.1 hlength, hgap, hfront, rfl⟩
  · rintro ⟨gap, front, hne, hgap, hfront, rfl⟩
    exact ⟨_, _, rfl, ⟨gap, front, ⟨length_pos_iff.2 hne, hgap⟩, hfront, rfl⟩, rfl⟩

theorem takes_bodyItems :
    Takes (sequence bodyItems) w ↔ ∃ bases, '\x7b' ∉ bases ∧ w = bases ++ ['\x7b'] := by
  simp only [bodyItems, Pattern.sequence, takes_seq, takes_manyBlanks, takes_markSet]
  constructor
  · rintro ⟨gap, v, ⟨-, hgap⟩, ⟨bases, v', hbases, rfl, rfl⟩, rfl⟩
    refine ⟨gap ++ bases, ?_, (append_assoc _ _ _).symm⟩
    rw [mem_append, not_or]
    exact ⟨hgap.notMem (by decide), fun h => (has_basesSet _).1 ((takes_many.1 hbases).2 _ h) rfl⟩
  · rintro ⟨bases, hbases, rfl⟩
    refine ⟨[], _, ⟨Nat.zero_le _, forall_mem_nil _⟩, ⟨bases, _, .many (Nat.zero_le _) ?_, rfl, rfl⟩,
      rfl⟩
    exact fun c hc => (has_basesSet c).2 fun h => hbases (h ▸ hc)

theorem takes_definitionRegex : Takes (definitionRegex name).node w ↔ IsOpening name w := by
  rw [definitionRegex, takes_sequence_append]
  constructor
  · rintro ⟨u, v, hu, hv, rfl⟩
    obtain ⟨keyword, n, hkeyword, hn, rfl⟩ := takes_sequence_append.1 hu
    obtain ⟨gap, front, hne, hgap, hfront, rfl⟩ := takes_keywordItems.1 hkeyword
    obtain ⟨bases, hbases, rfl⟩ := takes_bodyItems.1 hv
    rw [(takes_literal spacedFlags rfl).1 hn]
    exact ⟨hne, hgap, hfront, hbases⟩
  · rintro ⟨hne, hgap, hfront, hbases⟩
    refine ⟨_, _, takes_sequence_append.2 ⟨_, _, ?_, (takes_literal spacedFlags rfl).2 rfl, rfl⟩,
      takes_bodyItems.2 ⟨_, hbases, rfl⟩, rfl⟩
    exact takes_keywordItems.2 ⟨_, _, hne, hgap, hfront, rfl⟩

theorem isRegular_definitionRegex (name : List Char) :
    (definitionRegex name).node.isRegular = true := by
  have hfixed : (keywordItems ++ bodyItems).all (·.node.isRegular) = true := by decide
  rw [all_append, Bool.and_eq_true, all_eq_true, all_eq_true] at hfixed
  refine isRegular_sequence (forall_mem_append.2 ⟨forall_mem_append.2 ⟨hfixed.1, ?_⟩,
    hfixed.2⟩)
  intro item hitem
  obtain ⟨c, -, rfl⟩ := mem_map.1 hitem
  rfl

end

section
variable {name opening : List Char}

theorem IsExport.notMem {front : List Char} (h : IsExport front) : '\x7b' ∉ front := by
  cases h with
  | none => exact not_mem_nil
  | word hne hword hgapNe hgap =>
    rw [mem_append, not_or]
    exact ⟨fun h => absurd (hword _ h) (by decide), hgap.notMem (by decide)⟩

theorem IsOpening.exists_front (hname : '\x7b' ∉ name) (h : IsOpening name opening) :
    ∃ front, opening = front ++ ['\x7b'] ∧ '\x7b' ∉ front := by
  cases h with
  | @mk gap front bases hne hgap hfront hbases =>
    refine ⟨"class".toList ++ (gap ++ front) ++ name ++ bases, (append_assoc _ _ _).symm, ?_⟩
    simp [hgap.notMem (c := '\x7b') (by decide), hfront.notMem, hname, hbases]

theorem IsOpening.starts_keyword (h : IsOpening name opening) : "class".toList <+: opening := by
  cases h with
  | mk hne hgap hfront hbases =>
    simp only [append_assoc]
    exact prefix_append _ _

theorem IsOpening.eq_of_prefix (hname : '\x7b' ∉ name) {opening' rest : List Char}
    (h : IsOpening name opening) (h' : IsOpening name opening')
    (hstarts : opening' <+: opening ++ rest) : opening' = opening := by
  obtain ⟨front, rfl, hfront⟩ := h.exists_front hname
  obtain ⟨front', rfl, hfront'⟩ := h'.exists_front hname
  rw [Chars.eq_of_prefix_concat hfront hfront' hstarts]

theorem clear_before {before : List Char} (h : ¬ "class".toList <:+: before)
    (hopening : IsOpening name opening) (rest : List Char) :
    Clear (definitionRegex name).node before (opening ++ rest) := by
  intro u v huv hv w hw hstarts
  have hkeyword : "class".toList <+: v ++ (opening ++ rest) :=
    (takes_definitionRegex.1 hw).starts_keyword.trans hstarts
  obtain ⟨more, rfl⟩ := hopening.starts_keyword
  obtain ⟨d, v, rfl⟩ := exists_cons_of_ne_nil hv
  obtain ⟨rfl, hlater⟩ : 'c' = d ∧ "lass".toList <+: v ++ 'c' :: ("lass".toList ++ more ++ rest) := by
    simpa using hkeyword
  -- the other letters are not the first one, so the keyword cannot go on into the next
  have hinside : "lass".toList <+: v := Chars.prefix_of_notMem (by decide) hlater
  have hwhole : "class".toList <+: 'c' :: v := cons_prefix_cons.2 ⟨rfl, hinside⟩
  exact h (hwhole.isInfix.trans ⟨u, [], by rw [append_nil, huv]⟩)

theorem search_definitionRegex (hname : '\x7b' ∉ name) {before : List Char}
    (hbefore : ¬ "class".toList <:+: before) (hopening : IsOpening name opening)
    (rest : List Char) :
    ∃ m, (definitionRegex name).search (String.ofList (before ++ (opening ++ rest))) = some m ∧
      m.stop = (before ++ opening).length := by
  obtain ⟨caught, hscan⟩ := (clear_before hbefore hopening rest).scan_eq_some
    (isRegular_definitionRegex name) (takes_definitionRegex.2 hopening)
    fun w hw hstarts => hopening.eq_of_prefix hname (takes_definitionRegex.1 hw) hstarts
  rw [Regex.search_eq, hscan]
  exact ⟨_, rfl, rfl⟩

end

end BindingStubs.ClassSection
