import BindingStubs.ClassSection
import BindingStubs.Proofs.Inference.Declaration
import BindingStubs.Proofs.Pattern.Language

set_option autoImplicit false

/-! # Heads of sections -/

namespace BindingStubs.ClassSection

open Pattern Inference List

def IsGap (gap : List Char) : Prop := ∀ c ∈ gap, Text.isBlank c = true

instance (gap : List Char) : Decidable (IsGap gap) :=
  decidable_of_iff (gap.all Text.isBlank = true) all_eq_true

def accessWords : List String := ["public", "protected", "private"]

def markWords : List (String × SectionKind) := [("Q_SLOTS", .slots), ("Q_SIGNALS", .signals)]

inductive IsAccess : List Char → Prop
  | none : IsAccess []
  | word {word : String} {gap : List Char} (hword : word ∈ accessWords) (hne : gap ≠ [])
      (hgap : IsGap gap) : IsAccess (word.toList ++ gap)

inductive IsHead : SectionKind → List Char → Prop
  | access {word : String} {gap : List Char} (hword : word ∈ accessWords) (hgap : IsGap gap) :
      IsHead .plain (word.toList ++ (gap ++ [':']))
  | marked {front : List Char} {word : String} {kind : SectionKind} {gap : List Char}
      (hfront : IsAccess front) (hword : (word, kind) ∈ markWords) (hgap : IsGap gap) :
      IsHead kind (front ++ (word.toList ++ (gap ++ [':'])))

def Headless (cs : List Char) : Prop := ∀ kind head, IsHead kind head → ¬ head <:+: cs

def isHeadChar (c : Char) : Bool := Text.isWord c || Text.isBlank c

theorem IsGap.isHeadChar {gap : List Char} (h : IsGap gap) : ∀ c ∈ gap, isHeadChar c = true :=
  fun c hc => Bool.or_eq_true_iff.2 (.inr (h c hc))

theorem isHeadChar_of_mem_accessWords {word : String} (h : word ∈ accessWords) :
    ∀ c ∈ word.toList, isHeadChar c = true := by
  have hwords : accessWords.all (fun word => word.toList.all isHeadChar) = true := by decide
  exact all_eq_true.1 (all_eq_true.1 hwords word h)

theorem isHeadChar_of_mem_markWords {entry : String × SectionKind} (h : entry ∈ markWords) :
    ∀ c ∈ entry.1.toList, isHeadChar c = true := by
  have hwords : markWords.all (fun entry => entry.1.toList.all isHeadChar) = true := by decide
  exact all_eq_true.1 (all_eq_true.1 hwords entry h)

theorem IsAccess.isHeadChar {front : List Char} (h : IsAccess front) :
    ∀ c ∈ front, isHeadChar c = true := by
  cases h with
  | none => exact forall_mem_nil _
  | word hword hne hgap =>
    exact forall_mem_append.2 ⟨isHeadChar_of_mem_accessWords hword, hgap.isHeadChar⟩

section
variable {kind : SectionKind} {head : List Char}

theorem IsHead.exists_front (h : IsHead kind head) :
    ∃ front, head = front ++ [':'] ∧ ∀ c ∈ front, isHeadChar c = true := by
  cases h with
  | @access word gap hword hgap =>
    refine ⟨word.toList ++ gap, (append_assoc _ _ _).symm, ?_⟩
    exact forall_mem_append.2 ⟨isHeadChar_of_mem_accessWords hword, hgap.isHeadChar⟩
  | @marked front word kind gap hfront hword hgap =>
    refine ⟨front ++ (word.toList ++ gap), by simp only [append_assoc], ?_⟩
    exact forall_mem_append.2 ⟨hfront.isHeadChar,
      forall_mem_append.2 ⟨isHeadChar_of_mem_markWords hword, hgap.isHeadChar⟩⟩

theorem head?_word_append {word : List Char} {c : Char} (h : word.head? = some c)
    (rest : List Char) : (word ++ rest).head? = some c := by
  rw [List.head?_append, h, Option.some_or]

theorem IsHead.head?_eq (h : IsHead kind head) : head.head? = some 'p' ∨ head.head? = some 'Q' := by
  have haccess : ∀ word ∈ accessWords, word.toList.head? = some 'p' := by decide
  have hmark : ∀ entry ∈ markWords, entry.1.toList.head? = some 'Q' := by decide
  cases h with
  | access hword hgap => exact .inl (head?_word_append (haccess _ hword) _)
  | marked hfront hword hgap =>
    cases hfront with
    | none => exact .inr (head?_word_append (hmark _ hword) _)
    | word haccessWord hne hspace =>
      rw [append_assoc]
      exact .inl (head?_word_append (haccess _ haccessWord) _)

theorem IsHead.ne_nil (h : IsHead kind head) : head ≠ [] := by
  obtain ⟨front, rfl, -⟩ := h.exists_front
  exact concat_ne_nil _ _

theorem IsHead.eq_of_prefix {kind' : SectionKind} {head' rest : List Char} (h : IsHead kind head)
    (h' : IsHead kind' head') (hstarts : head' <+: head ++ rest) : head' = head := by
  obtain ⟨front, rfl, hfront⟩ := h.exists_front
  obtain ⟨front', rfl, hfront'⟩ := h'.exists_front
  have hcolon {cs : List Char} (hcs : ∀ c ∈ cs, isHeadChar c = true) : ':' ∉ cs :=
    fun hmem => absurd (hcs ':' hmem) (by decide)
  rw [Chars.eq_of_prefix_concat (hcolon hfront) (hcolon hfront') hstarts]

def wordsNode (shared : String) (ends : List String) : Node :=
  sequence (literalItems {} shared.toList ++
    [⟨.bundle, alternatives (ends.map fun e => literalItems {} e.toList)⟩])

def accessNode : Node := wordsNode "p" ["ublic", "rotected", "rivate"]

def markNode : Node := wordsNode "Q_S" ["LOTS", "IGNALS"]

def colonNode : Node := .seq (manyOfSet blankSet 0) (.set (markSet ':'))

def frontNode : Node :=
  .rounds (.capture 2 (.seq (.capture 3 accessNode) (manyOfSet blankSet 1))) 0 (some 1) .most

def headNode : Node :=
  .alt (.capture 1 (.seq frontNode (.seq (.capture 4 markNode) colonNode)))
    (.capture 5 (.seq (.capture 6 accessNode) colonNode))

theorem headPattern_node : headPattern.node = headNode := by decide +kernel

theorem isRegular_headNode : headPattern.node.isRegular = true := by
  rw [headPattern_node]
  decide

end

section
variable {w : List Char}

theorem takes_wordsNode {shared : String} {ends : List String} (hne : ends ≠ []) :
    Takes (wordsNode shared ends) w ↔ ∃ e ∈ ends, w = (shared ++ e).toList := by
  have hends : (ends.map fun e => literalItems {} e.toList) ≠ [] := by simpa using hne
  rw [wordsNode, takes_sequence_append]
  constructor
  · rintro ⟨u, v, hu, hv, rfl⟩
    obtain ⟨items, hitems, hv⟩ := (takes_alternatives hends).1 hv
    obtain ⟨e, he, rfl⟩ := mem_map.1 hitems
    rw [(takes_literal {} rfl).1 hu, (takes_literal {} rfl).1 hv]
    exact ⟨e, he, String.toList_append.symm⟩
  · rintro ⟨e, he, rfl⟩
    refine ⟨_, _, (takes_literal {} rfl).2 rfl, (takes_alternatives hends).2 ?_, String.toList_append⟩
    exact ⟨_, mem_map.2 ⟨e, he, rfl⟩, (takes_literal {} rfl).2 rfl⟩

theorem takes_accessNode : Takes accessNode w ↔ ∃ word ∈ accessWords, w = word.toList := by
  rw [accessNode, takes_wordsNode (cons_ne_nil _ _)]
  simp [accessWords]

theorem takes_markNode :
    Takes markNode w ↔ ∃ entry ∈ markWords, w = entry.1.toList := by
  rw [markNode, takes_wordsNode (cons_ne_nil _ _)]
  simp [markWords]

theorem has_blankSet (c : Char) : blankSet.has c = Text.isBlank c := by
  rw [blankSet, has_set, any_cons, any_nil, Bool.or_false, has_kind, Bool.bne_false,
    Bool.bne_false]
  rfl

theorem takes_manyBlanks {atLeast : Nat} :
    Takes (manyOfSet blankSet atLeast) w ↔ atLeast ≤ w.length ∧ IsGap w := by
  rw [manyOfSet, takes_many]
  simp only [has_blankSet, IsGap]

theorem takes_markSet {d : Char} : Takes (.set (markSet d)) w ↔ w = [d] :=
  takes_charItem {} rfl

theorem takes_colonNode : Takes colonNode w ↔ ∃ gap, IsGap gap ∧ w = gap ++ [':'] := by
  rw [colonNode, takes_seq]
  constructor
  · rintro ⟨gap, v, hgap, hv, rfl⟩
    exact ⟨gap, (takes_manyBlanks.1 hgap).2, by rw [takes_markSet.1 hv]⟩
  · rintro ⟨gap, hgap, rfl⟩
    exact ⟨gap, [':'], takes_manyBlanks.2 ⟨Nat.zero_le _, hgap⟩, takes_markSet.2 rfl, rfl⟩

theorem takes_frontNode : Takes frontNode w ↔ IsAccess w := by
  rw [frontNode, takes_optional, takes_capture, takes_seq]
  constructor
  · rintro (rfl | ⟨u, gap, hu, hgap, rfl⟩)
    · exact .none
    · obtain ⟨word, hword, rfl⟩ := takes_accessNode.1 (takes_capture.1 hu)
      obtain ⟨hlength, hgap⟩ := takes_manyBlanks.1 hgap
      exact .word hword (length_pos_iff.1 hlength) hgap
  · rintro (_ | ⟨hword, hne, hgap⟩)
    · exact .inl rfl
    · exact .inr ⟨_, _, .capture (takes_accessNode.2 ⟨_, hword, rfl⟩),
        takes_manyBlanks.2 ⟨length_pos_iff.2 hne, hgap⟩, rfl⟩

theorem takes_headPattern : Takes headPattern.node w ↔ ∃ kind, IsHead kind w := by
  rw [headPattern_node, headNode, takes_alt, takes_capture, takes_capture, takes_seq, takes_seq]
  constructor
  · rintro (⟨front, v, hfront, hv, rfl⟩ | ⟨u, v, hu, hv, rfl⟩)
    · obtain ⟨u, rest, hu, hrest, rfl⟩ := takes_seq.1 hv
      obtain ⟨⟨word, kind⟩, hword, rfl⟩ := takes_markNode.1 (takes_capture.1 hu)
      obtain ⟨gap, hgap, rfl⟩ := takes_colonNode.1 hrest
      exact ⟨kind, .marked (takes_frontNode.1 hfront) hword hgap⟩
    · obtain ⟨word, hword, rfl⟩ := takes_accessNode.1 (takes_capture.1 hu)
      obtain ⟨gap, hgap, rfl⟩ := takes_colonNode.1 hv
      exact ⟨.plain, .access hword hgap⟩
  · rintro ⟨kind, h⟩
    cases h with
    | access hword hgap =>
      exact .inr ⟨_, _, .capture (takes_accessNode.2 ⟨_, hword, rfl⟩),
        takes_colonNode.2 ⟨_, hgap, rfl⟩, rfl⟩
    | marked hfront hword hgap =>
      refine .inl ⟨_, _, takes_frontNode.2 hfront, .seq (.capture ?_) ?_, rfl⟩
      · exact takes_markNode.2 ⟨_, hword, rfl⟩
      · exact takes_colonNode.2 ⟨_, hgap, rfl⟩

theorem headless_iff : Headless w ↔ headPattern.search (String.ofList w) = none := by
  rw [Regex.search_eq_none_iff isRegular_headNode]
  simp only [takes_headPattern, Headless]
  exact ⟨fun h head ⟨kind, hhead⟩ => h kind head hhead, fun h kind head hhead => h head ⟨kind, hhead⟩⟩

instance : Decidable (Headless w) := decidable_of_iff _ headless_iff.symm

end

theorem IsGap.notMem {gap : List Char} (hgap : IsGap gap) {c : Char} (hc : Text.isBlank c = false) :
    c ∉ gap := by
  intro h
  rw [hgap c h] at hc
  cases hc

theorem IsAccess.notMem {front : List Char} (h : IsAccess front) {c : Char}
    (hc : accessWords.all (!·.toList.contains c) = true) (hblank : Text.isBlank c = false) :
    c ∉ front := by
  cases h with
  | none => exact not_mem_nil
  | word hword hne hgap =>
    have hfree := all_eq_true.1 hc _ hword
    rw [mem_append, not_or]
    exact ⟨by simpa using hfree, hgap.notMem hblank⟩

theorem contains_eq_false {head : List Char} {part : String} {c : Char} (hpart : c ∈ part.toList)
    (hc : c ∉ head) : Text.contains (String.ofList head) part = false := by
  rw [Text.contains, String.toList_ofList, ← Bool.not_eq_true, Chars.contains_iff_infix]
  exact fun h => hc (h.subset hpart)

theorem contains_eq_true {head : List Char} {part : String} (h : part.toList <:+: head) :
    Text.contains (String.ofList head) part = true := by
  rw [Text.contains, String.toList_ofList, Chars.contains_iff_infix]
  exact h

theorem kindOf_head {kind : SectionKind} {head : List Char} (h : IsHead kind head) :
    kindOf (String.ofList head) = kind := by
  rw [kindOf]
  cases h with
  | @access word gap hword hgap =>
    have hword : 'Q' ∉ word.toList := by
      have hwords : ∀ word ∈ accessWords, 'Q' ∉ word.toList := by decide
      exact hwords word hword
    have hfree : 'Q' ∉ word.toList ++ (gap ++ [':']) := by
      simp [hword, hgap.notMem (c := 'Q') (by decide)]
    rw [contains_eq_false (by decide) hfree, contains_eq_false (by decide) hfree]
    rfl
  | @marked front word kind gap hfront hword hgap =>
    simp only [markWords, mem_cons, not_mem_nil, or_false, Prod.mk.injEq] at hword
    rcases hword with ⟨rfl, rfl⟩ | ⟨rfl, rfl⟩
    · have hfree : 'I' ∉ front ++ ("Q_SLOTS".toList ++ (gap ++ [':'])) := by
        simp [hfront.notMem (c := 'I') (by decide) (by decide), hgap.notMem (c := 'I') (by decide)]
      have hslot : "Q_SLOT".toList <:+: front ++ ("Q_SLOTS".toList ++ (gap ++ [':'])) :=
        ⟨front, 'S' :: (gap ++ [':']), by simp⟩
      rw [contains_eq_false (by decide) hfree, contains_eq_true hslot]
      rfl
    · have hsignals : "Q_SIGNALS".toList <:+: front ++ ("Q_SIGNALS".toList ++ (gap ++ [':'])) :=
        ⟨front, gap ++ [':'], append_assoc _ _ _⟩
      rw [contains_eq_true hsignals]
      rfl

end BindingStubs.ClassSection
