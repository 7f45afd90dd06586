import BindingStubs.Proofs.Source.Block
import BindingStubs.Proofs.Source.Pieces
import BindingStubs.Proofs.Text.Infix
import BindingStubs.Proofs.Text.Search

set_option autoImplicit false

/-! # Arguments of a written call -/

namespace BindingStubs.Source

open List

/-- An argument as it stands in a call: not empty, without outer blanks, and cut nowhere. -/
structure IsArgument (a : List Char) : Prop where
  nonempty : a ≠ []
  trimmed : Chars.trim a = a
  whole : SelfContained ['('] [')'] ',' a

instance (a : List Char) : Decidable (IsArgument a) :=
  decidable_of_iff (a ≠ [] ∧ Chars.trim a = a ∧ SelfContained ['('] [')'] ',' a)
    ⟨fun ⟨h₁, h₂, h₃⟩ => ⟨h₁, h₂, h₃⟩, fun ⟨h₁, h₂, h₃⟩ => ⟨h₁, h₂, h₃⟩⟩

def keptPieces (pieces : List (List Char)) : List String :=
  (pieces.map Chars.trim).filterMap fun piece =>
    if piece.isEmpty then none else some (String.ofList piece)

def argumentPieces (cs : List Char) : List (List Char) :=
  piecesLoop ['('] [')'] (some ',') {} [] cs

theorem argumentsOf_eq (text : List Char) (start : Nat) :
    argumentsOf text start =
      keptPieces (argumentPieces (callInside (blockFrom text start '(' ')'))) := rfl

theorem comma_isPlain : IsPlain ['('] [')'] ',' := by decide

theorem keptPieces_cons {a : List Char} (h : IsArgument a) (pieces : List (List Char)) :
    keptPieces (a :: pieces) = String.ofList a :: keptPieces pieces := by
  simp [keptPieces, h.trimmed, h.nonempty]

theorem keptPieces_singleton (piece : List Char) :
    keptPieces [piece] =
      if (Chars.trim piece).isEmpty then [] else [String.ofList (Chars.trim piece)] := by
  rw [keptPieces, map_singleton, filterMap_cons]
  split <;> simp_all

theorem keptPieces_space (piece : List Char) (pieces : List (List Char)) :
    keptPieces ((' ' :: piece) :: pieces) = keptPieces (piece :: pieces) := by
  have htrim : Chars.trim (' ' :: piece) = Chars.trim piece := rfl
  simp only [keptPieces, map_cons, htrim]

theorem piecesLoop_modifyHead {openings closings : List Char} {separator : Char}
    (hsep : IsPlain openings closings separator) (s : Inside) (piece rest : List Char) :
    piecesLoop openings closings (some separator) s piece rest =
      (piecesLoop openings closings (some separator) s [] rest).modifyHead (piece.reverse ++ ·) := by
  induction rest generalizing s piece with
  | nil => simp [piecesLoop]
  | cons c rest ih =>
    rw [piecesLoop_cons hsep, piecesLoop_cons hsep]
    split
    · simp
    · cases s.next? openings closings c with
      | none => simp
      | some t =>
        dsimp only
        rw [ih t (c :: piece), ih t [c], modifyHead_modifyHead]
        simp [Function.comp_def]

theorem keptPieces_argumentPieces_space (cs : List Char) :
    keptPieces (argumentPieces (' ' :: cs)) = keptPieces (argumentPieces cs) := by
  have hspace : argumentPieces (' ' :: cs) = piecesLoop ['('] [')'] (some ',') {} [' '] cs := rfl
  rw [hspace, piecesLoop_modifyHead comma_isPlain, ← argumentPieces]
  cases argumentPieces cs with
  | nil => rfl
  | cons piece pieces => exact keptPieces_space piece pieces

theorem keptPieces_argumentPieces_comma {a : List Char} (h : IsArgument a) (cs : List Char) :
    keptPieces (argumentPieces (a ++ ',' :: cs)) =
      String.ofList a :: keptPieces (argumentPieces cs) := by
  rw [argumentPieces, piecesLoop_selfContained comma_isPlain h.whole,
    piecesLoop_separator comma_isPlain, reverse_reverse, keptPieces_cons h, ← argumentPieces]

def joinedArguments (arguments : List (List Char)) : List Char := [',', ' '].intercalate arguments

theorem joinedArguments_cons_cons (a b : List Char) (rest : List (List Char)) :
    joinedArguments (a :: b :: rest) = a ++ ',' :: ' ' :: joinedArguments (b :: rest) := by
  rw [joinedArguments, intercalate_cons_cons]
  simp [joinedArguments]

theorem joinedArguments_ne_nil {arguments : List (List Char)} (h : ∀ a ∈ arguments, IsArgument a)
    (hne : arguments ≠ []) : joinedArguments arguments ≠ [] := by
  match arguments with
  | [] => exact absurd rfl hne
  | [a] =>
    rw [joinedArguments, intercalate_singleton]
    exact (h a mem_cons_self).nonempty
  | a :: b :: rest =>
    rw [joinedArguments_cons_cons]
    simp

theorem keptPieces_joinedArguments {arguments : List (List Char)}
    (h : ∀ a ∈ arguments, IsArgument a) {rest : List Char}
    (hrest : ∀ piece, piecesLoop ['('] [')'] (some ',') {} piece rest = [piece.reverse]) :
    keptPieces (argumentPieces (joinedArguments arguments ++ rest)) =
      arguments.map String.ofList := by
  induction arguments with
  | nil =>
    rw [joinedArguments, intercalate_nil, nil_append, argumentPieces, hrest]
    rfl
  | cons a others ih =>
    have ha := h a mem_cons_self
    have ih := ih fun b hb => h b (mem_cons_of_mem _ hb)
    cases others with
    | nil =>
      rw [joinedArguments, intercalate_singleton, argumentPieces,
        piecesLoop_selfContained comma_isPlain ha.whole, hrest, reverse_reverse,
        keptPieces_cons ha]
      rfl
    | cons b others =>
      rw [joinedArguments_cons_cons, append_assoc, cons_append, cons_append,
        keptPieces_argumentPieces_comma ha, keptPieces_argumentPieces_space, ih]
      rfl

theorem Inside.scan?_prefix {openings closings cs ds : List Char} {s t : Inside}
    (h : s.scan? openings closings (cs ++ ds) = some t) :
    ∃ u, s.scan? openings closings cs = some u := by
  induction cs generalizing s with
  | nil => exact ⟨s, rfl⟩
  | cons c cs ih =>
    rw [cons_append, Inside.scan?, Option.bind_eq_some_iff] at h
    obtain ⟨u, hu, h⟩ := h
    obtain ⟨v, hv⟩ := ih h
    exact ⟨v, by rw [Inside.scan?, hu]; exact hv⟩

theorem argumentPieces_of_part {a part : List Char} (h : IsArgument a) (hpart : part <+: a) :
    argumentPieces part = [part] := by
  obtain ⟨rest, rfl⟩ := hpart
  obtain ⟨t, ht⟩ := Inside.scan?_prefix h.whole.closed
  have huncut : Uncut ['('] [')'] ',' {} part := by
    intro i hi hc
    have hcut := h.whole.uncut i (by rw [length_append]; omega)
    rw [getElem_append_left hi, take_append_of_le_length (Nat.le_of_lt hi)] at hcut
    exact hcut hc
  have hloop := piecesLoop_append comma_isPlain ht huncut [] []
  rw [append_nil, append_nil] at hloop
  rw [argumentPieces, hloop, piecesLoop, reverse_reverse]

theorem length_keptPieces_le (pieces : List (List Char)) :
    (keptPieces pieces).length ≤ pieces.length := by
  rw [keptPieces]
  exact (length_filterMap_le _ _).trans (length_map _).le

theorem keptPieces_ne_of_part {arguments : List (List Char)} (h : ∀ a ∈ arguments, IsArgument a)
    {part : List Char} (hpart : part <+: joinedArguments arguments)
    (hshort : part.length < (joinedArguments arguments).length) :
    keptPieces (argumentPieces part) ≠ arguments.map String.ofList := by
  induction arguments generalizing part with
  | nil => exact absurd hshort (Nat.not_lt_zero _)
  | cons a others ih =>
    have ha := h a mem_cons_self
    -- Within the first argument there is one piece, and it is not the whole argument.
    have hone : part <+: a → (keptPieces (argumentPieces part)).length ≤ 1 := fun hpart => by
      rw [argumentPieces_of_part ha hpart]
      exact length_keptPieces_le _
    cases others with
    | nil =>
      rw [joinedArguments, intercalate_singleton] at hpart hshort
      rw [argumentPieces_of_part ha hpart]
      intro heq
      have htrim : Chars.trim part = a := by
        rw [keptPieces_singleton] at heq
        split at heq
        · cases heq
        · simpa using congrArg (List.map String.toList) heq
      have hle := (Chars.infix_trim part).length_le
      rw [htrim] at hle
      omega
    | cons b others =>
      rw [joinedArguments_cons_cons] at hpart hshort
      intro heq
      have hlength := congrArg List.length heq
      simp only [length_map, length_cons] at hlength
      rcases prefix_or_prefix_of_prefix hpart (prefix_append a _) with hin | ⟨rest, rfl⟩
      · have := hone hin
        omega
      · rw [prefix_append_right_inj] at hpart
        cases rest with
        | nil =>
          have := hone (by simp)
          omega
        | cons c rest =>
          obtain ⟨rfl, hrest⟩ := cons_prefix_cons.1 hpart
          rw [keptPieces_argumentPieces_comma ha] at heq hlength
          cases rest with
          | nil =>
            have hnone : keptPieces (argumentPieces []) = [] := rfl
            rw [hnone] at hlength
            simp at hlength
          | cons d rest =>
            obtain ⟨rfl, htail⟩ := cons_prefix_cons.1 hrest
            rw [keptPieces_argumentPieces_space] at heq
            refine ih (fun b hb => h b (mem_cons_of_mem _ hb)) htail ?_
              (cons_eq_cons.1 heq).2
            simp only [length_append, length_cons] at hshort
            omega

theorem callInside_cons (block : List Char) :
    callInside ('(' :: block) =
      block.take ((Chars.lastIndex? ('(' :: block) [')']).getD block.length - 1) := by
  have hfirst : Chars.index? ('(' :: block) ['('] = some 0 :=
    @Chars.index?_of_notMem '(' [] not_mem_nil block
  rw [callInside, hfirst, Chars.slice, length_cons, Nat.add_sub_cancel]
  cases (Chars.lastIndex? ('(' :: block) [')']).getD block.length <;> rfl

theorem callInside_of_closed (inner after : List Char) :
    ∃ rest, callInside ('(' :: (inner ++ ')' :: after)) = inner ++ rest ∧
      (rest = [] ∨ ∃ more, rest = ')' :: more) := by
  obtain ⟨before, rest, hlast, hnot⟩ := Chars.exists_last (mem_cons_self (a := ')') (l := after))
  have hindex := Chars.lastIndex?_of_notMem ('(' :: (inner ++ before)) hnot
  rw [cons_append, append_assoc, ← hlast] at hindex
  refine ⟨before, ?_, ?_⟩
  · rw [callInside_cons, hindex, hlast, Option.getD_some, length_cons, Nat.add_sub_cancel,
      ← append_assoc, take_left]
  · cases before with
    | nil => exact .inl rfl
    | cons c more =>
      rw [cons_append] at hlast
      exact .inr ⟨more, by rw [(cons_eq_cons.1 hlast).1]⟩

theorem length_callInside_lt {block : List Char} (hne : block ≠ []) :
    (callInside ('(' :: block)).length < block.length := by
  have hpos := length_pos_iff.2 hne
  rw [callInside_cons, length_take]
  cases hlast : Chars.lastIndex? ('(' :: block) [')'] with
  | none =>
    rw [Option.getD_none]
    omega
  | some i =>
    have hi := Chars.lastIndex?_lt hlast
    rw [length_cons] at hi
    rw [Option.getD_some]
    omega

theorem charactersSeen_ne_nil {text rest : List Char} {start : Nat}
    (h : text.drop start = '(' :: rest) : charactersSeen text start ≠ [] := by
  rw [charactersSeen, h]
  split
  · exact cons_ne_nil (start, '(') _
  · exact cons_ne_nil (start, '(') _

theorem argumentsOf_written_iff (name after : List Char) {arguments : List (List Char)}
    (h : ∀ a ∈ arguments, IsArgument a) :
    argumentsOf (name ++ '(' :: (joinedArguments arguments ++ ')' :: after)) name.length =
        arguments.map String.ofList ↔
      arguments = [] ∨ name.length + 1 + (joinedArguments arguments).length ≤
        blockEnd '(' ')' 0 0 (charactersSeen
          (name ++ '(' :: (joinedArguments arguments ++ ')' :: after)) name.length) := by
  set inner := joinedArguments arguments with hinner
  set text := name ++ '(' :: (inner ++ ')' :: after)
  have hdrop : text.drop name.length = '(' :: (inner ++ ')' :: after) := drop_left
  obtain ⟨x, hx, hend⟩ := blockEnd_mem (by decide : '(' ≠ ')') 0 0 (charactersSeen_ne_nil hdrop)
  have hstart : name.length ≤ x.1 :=
    (le_of_mem_positioned ((charactersSeen_sublist text name.length).subset hx)).1
  obtain ⟨k, hk⟩ := Nat.exists_eq_add_of_le hstart
  have hblock : blockFrom text name.length '(' ')' = '(' :: (inner ++ ')' :: after).take k := by
    rw [blockFrom, hend, hk, Chars.slice, drop_take, hdrop,
      show name.length + k + 1 - name.length = k + 1 by omega, take_succ_cons]
  rw [argumentsOf_eq, hblock, hend, hk]
  by_cases hreach : inner.length + 1 ≤ k
  · refine iff_of_true ?_ (.inr (by omega))
    obtain ⟨m, rfl⟩ := Nat.exists_eq_add_of_le hreach
    obtain ⟨rest, hinside, hrest⟩ := callInside_of_closed inner (after.take m)
    rw [Nat.add_assoc, take_length_add_append, Nat.add_comm 1, take_succ_cons, hinside]
    refine keptPieces_joinedArguments h fun piece => ?_
    rcases hrest with rfl | ⟨more, rfl⟩
    · rfl
    · exact piecesLoop_unmatched comma_isPlain (by decide) (by decide) (by decide) (by decide) _ _
  · have htake : (inner ++ ')' :: after).take k = inner.take k :=
      take_append_of_le_length (by omega)
    rw [htake]
    by_cases hnil : arguments = []
    · subst hnil
      refine iff_of_true ?_ (.inl rfl)
      rw [hinner, show joinedArguments [] = [] from rfl, take_nil]
      rfl
    · refine iff_of_false ?_ (by rw [not_or]; exact ⟨hnil, by omega⟩)
      have hpart : callInside ('(' :: inner.take k) <+: inner.take k := by
        rw [callInside_cons]
        exact take_prefix _ _
      have hshort : (callInside ('(' :: inner.take k)).length < inner.length := by
        by_cases hempty : inner.take k = []
        · rw [hempty]
          exact length_pos_iff.2 (joinedArguments_ne_nil h hnil)
        · exact Nat.lt_of_lt_of_le (length_callInside_lt hempty) (List.take_prefix _ _).length_le
      exact keptPieces_ne_of_part h (hpart.trans (List.take_prefix _ _)) hshort

theorem staysOpen_positioned {opening closing : Char} (hne : opening ≠ closing) {depth : Nat}
    (hdepth : 0 < depth) (start : Nat) (cs : List Char) :
    StaysOpen opening closing depth (positioned start cs) ↔
      ∀ part, part <+: cs → part.count closing < depth + part.count opening := by
  induction cs generalizing depth start with
  | nil =>
    refine iff_of_true (fun before i after heq => by simp [positioned] at heq) fun part hpart => ?_
    rw [prefix_nil.1 hpart]
    exact hdepth
  | cons c cs ih =>
    have hparts : (∀ part, part <+: c :: cs → part.count closing < depth + part.count opening) ↔
        ∀ part, part <+: cs →
          (c :: part).count closing < depth + (c :: part).count opening := by
      constructor
      · exact fun h part hpart => h (c :: part) ((prefix_cons_inj c).2 hpart)
      · intro h part hpart
        cases part with
        | nil => simpa using hdepth
        | cons d part =>
          obtain ⟨rfl, htail⟩ := cons_prefix_cons.1 hpart
          exact h part htail
    rw [positioned, staysOpen_cons hne, hparts]
    dsimp only
    by_cases hopening : c = opening
    · subst hopening
      have hdeeper : depthAfter c closing depth c = ((depth + 1 : Nat) : Int) := by
        simp [depthAfter]
      rw [hdeeper, ih (Nat.succ_pos depth), and_iff_right fun h => hne h.1]
      refine forall₂_congr fun part _ => ?_
      rw [count_cons_self, count_cons_of_ne hne]
      omega
    · by_cases hclosing : c = closing
      · subst hclosing
        by_cases hlast : depth = 1
        · refine iff_of_false (fun h => h.1 ⟨rfl, by omega⟩) fun h => ?_
          have hnil := h [] (List.nil_prefix)
          rw [count_cons_self, count_cons_of_ne hopening, hlast] at hnil
          simp at hnil
        · have hlower : depthAfter opening c depth c = ((depth - 1 : Nat) : Int) := by
            rw [depthAfter, if_neg hopening, if_pos rfl]
            omega
          rw [hlower, ih (by omega), and_iff_right fun h => hlast (by omega)]
          refine forall₂_congr fun part _ => ?_
          rw [count_cons_self, count_cons_of_ne hopening]
          omega
      · have hsame : depthAfter opening closing depth c = depth := by
          rw [depthAfter, if_neg hopening, if_neg hclosing]
        rw [hsame, ih hdepth, and_iff_right fun h => hclosing h.1]
        refine forall₂_congr fun part _ => ?_
        rw [count_cons_of_ne hopening, count_cons_of_ne hclosing]

def writtenCall (name : String) (arguments : List String) (after : String) : String :=
  name ++ "(" ++ Text.join ", " arguments ++ ")" ++ after

def closingPlace (name : String) (arguments : List String) : Nat :=
  name.length + 1 + (Text.join ", " arguments).length

def callSeen (name : String) (arguments : List String) (after : String) : List (Nat × Char) :=
  charactersSeen (writtenCall name arguments after).toList name.length

theorem toList_joined (arguments : List String) :
    (Text.join ", " arguments).toList = joinedArguments (arguments.map String.toList) := by
  rw [Text.join, String.toList_intercalate]
  rfl

theorem toList_writtenCall (name after : String) (arguments : List String) :
    (writtenCall name arguments after).toList =
      name.toList ++ '(' :: (joinedArguments (arguments.map String.toList) ++ ')' :: after.toList) := by
  simp only [writtenCall, String.toList_append, toList_joined, append_assoc]
  rfl

theorem callArguments_writtenCall {name : String} (hname : '(' ∉ name.toList) (after : String)
    (arguments : List String) :
    callArguments (writtenCall name arguments after) none =
      .ok (argumentsOf (writtenCall name arguments after).toList name.length) := by
  rw [callArguments, startOf, toList_writtenCall, Chars.index?_of_notMem hname, String.length_toList]
  rfl

theorem closingPlace_eq (name : String) (arguments : List String) :
    closingPlace name arguments =
      name.length + 1 + (joinedArguments (arguments.map String.toList)).length := by
  rw [closingPlace, ← toList_joined, String.length_toList]

theorem drop_writtenCall (name after : String) (arguments : List String) :
    (writtenCall name arguments after).toList.drop name.length =
      '(' :: (joinedArguments (arguments.map String.toList) ++ ')' :: after.toList) := by
  rw [toList_writtenCall, ← String.length_toList, drop_left]

def ReachesEnd (name : String) (arguments : List String) (after : String) : Prop :=
  StaysOpen '(' ')' 0
      ((callSeen name arguments after).filter (·.1 < closingPlace name arguments)) ∧
    ∃ x ∈ callSeen name arguments after, closingPlace name arguments ≤ x.1

theorem callArguments_eq_iff {name : String} {arguments : List String}
    (hname : '(' ∉ name.toList) (h : ∀ a ∈ arguments, IsArgument a.toList) (after : String) :
    callArguments (writtenCall name arguments after) none = .ok arguments ↔
      arguments = [] ∨ ReachesEnd name arguments after := by
  have hargs : ∀ a ∈ arguments.map String.toList, IsArgument a := by
    intro a ha
    obtain ⟨b, hb, rfl⟩ := mem_map.1 ha
    exact h b hb
  have hfound := argumentsOf_written_iff name.toList after.toList hargs
  have hback : (arguments.map String.toList).map String.ofList = arguments := by
    simp [Function.comp_def]
  have hsorted : (callSeen name arguments after).Pairwise (fun x y => x.1 < y.1) :=
    (positioned_pairwise _ _).sublist (charactersSeen_sublist _ _)
  have hseen : callSeen name arguments after ≠ [] :=
    charactersSeen_ne_nil (drop_writtenCall name after arguments)
  rw [← toList_writtenCall, hback, String.length_toList, ← closingPlace_eq, ← callSeen,
    le_blockEnd_iff (by decide) hsorted hseen, map_eq_nil_iff] at hfound
  rw [callArguments_writtenCall hname, Except.ok.injEq]
  exact hfound

theorem reachesEnd_iff {name after : String} {arguments : List String}
    (h : Text.contains (writtenCall name arguments after) "#if" = false) :
    ReachesEnd name arguments after ↔
      ∀ part, part <+: (Text.join ", " arguments).toList → part.count ')' ≤ part.count '(' := by
  have hne : '(' ≠ ')' := by decide
  have hseen : callSeen name arguments after =
      positioned name.length ('(' :: joinedArguments (arguments.map String.toList)) ++
        positioned (closingPlace name arguments) (')' :: after.toList) := by
    rw [callSeen, charactersSeen, ← Text.contains, h, if_neg Bool.false_ne_true, drop_writtenCall,
      ← cons_append, positioned_append, closingPlace_eq, length_cons, Nat.add_assoc,
      Nat.add_comm 1]
  have hbefore : (callSeen name arguments after).filter (·.1 < closingPlace name arguments) =
      positioned name.length ('(' :: joinedArguments (arguments.map String.toList)) := by
    rw [hseen, filter_append, filter_eq_self.2, filter_eq_nil_iff.2, append_nil]
    · intro x hx
      have := (le_of_mem_positioned hx).1
      simp only [decide_eq_true_eq]
      omega
    · intro x hx
      have hlt := (le_of_mem_positioned hx).2
      rw [length_cons] at hlt
      rw [decide_eq_true_eq, closingPlace_eq]
      omega
  have hlater : ∃ x ∈ callSeen name arguments after, closingPlace name arguments ≤ x.1 := by
    refine ⟨(closingPlace name arguments, ')'), ?_, Nat.le_refl _⟩
    rw [hseen]
    exact mem_append_right _ mem_cons_self
  have hdepth : depthAfter '(' ')' 0 '(' = ((1 : Nat) : Int) := rfl
  rw [ReachesEnd, hbefore, and_iff_left hlater, positioned, staysOpen_cons hne, hdepth,
    staysOpen_positioned hne Nat.one_pos, and_iff_right fun h => hne h.1, toList_joined]
  refine forall₂_congr fun part _ => ?_
  omega

/-- The arguments of a written call are found again if and only if the parentheses that are seen
before the closing one do not close the call and something is seen from there on. Without
conditionals that means: no part of the arguments from their start, strings included, closes more
parentheses than it opens. -/
theorem callArguments_written_iff (name after : String) (arguments : List String)
    (hname : '(' ∉ name.toList) (h : ∀ a ∈ arguments, IsArgument a.toList) :
    (callArguments (writtenCall name arguments after) none = .ok arguments ↔
      arguments = [] ∨ ReachesEnd name arguments after) ∧
    (Text.contains (writtenCall name arguments after) "#if" = false →
      (callArguments (writtenCall name arguments after) none = .ok arguments ↔
        ∀ part, part <+: (Text.join ", " arguments).toList → part.count ')' ≤ part.count '(')) := by
  have hfound := callArguments_eq_iff hname h after
  refine ⟨hfound, fun hif => hfound.trans ?_⟩
  rw [reachesEnd_iff hif]
  refine or_iff_right_of_imp ?_
  rintro rfl part hpart
  rw [prefix_nil.1 hpart]
  exact Nat.le_refl _

/-- Nested calls and a string with an opening parenthesis, which leads the search for the end into
the text after the call. -/
theorem callArguments_written_label :
    '(' ∉ "label".toList ∧ IsArgument "\"(\"".toList ∧ IsArgument "g(x, \"a, b\")".toList ∧
      callArguments "label(\"(\", g(x, \"a, b\")) + h(z)" none =
        .ok ["\"(\"", "g(x, \"a, b\")"] := by
  have hparts : ∀ part ∈ (Text.join ", " ["\"(\"", "g(x, \"a, b\")"]).toList.inits,
      part.count ')' ≤ part.count '(' := by decide
  have hfound := (callArguments_written_iff "label" " + h(z)" ["\"(\"", "g(x, \"a, b\")"]
    (by decide) (by decide)).2 (by decide)
  exact ⟨by decide, by decide, by decide,
    hfound.2 fun part hpart => hparts part ((mem_inits part _).2 hpart)⟩

/-- A closing parenthesis in a string ends the call. -/
theorem callArguments_smiley :
    writtenCall "f" ["\")\"", "b"] "" = "f(\")\", b)" ∧ '(' ∉ "f".toList ∧
      IsArgument "\")\"".toList ∧ IsArgument "b".toList ∧
      callArguments "f(\")\", b)" none = .ok ["\""] ∧
      (["\""] : List String) ≠ ["\")\"", "b"] := by
  exact ⟨by decide, by decide, by decide, by decide, by decide, by decide⟩

end BindingStubs.Source
