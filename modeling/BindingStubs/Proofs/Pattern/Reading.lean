import BindingStubs.Pattern.Reader
import Mathlib.Data.List.Basic

set_option autoImplicit false

/-! # Names in written patterns -/

namespace BindingStubs.Pattern

open List

def specialChars : List Char :=
  ['\\', '.', '^', '$', '*', '+', '?', '\x7b', '[', '(', '|', ')']

theorem notMem_specialChars {c : Char} (hc : Text.isWord c = true) : c ∉ specialChars := by
  intro h
  have hspecial : specialChars.all (fun c => !Text.isWord c) = true := by decide
  have hword := all_eq_true.1 hspecial c h
  rw [hc] at hword
  cases hword

/-- White space and the start of a comment, where the notation leaves them out. -/
def Flags.leavesOut (flags : Flags) (c : Char) : Bool := flags.spaced && (isSpacing c || c == '#')

def literalItems (flags : Flags) (name : List Char) : List Item :=
  name.map fun c => charItem flags c.toNat

section
variable {name : List Char}

theorem tokens_append (hname : ∀ c ∈ name, c ∉ specialChars) (rest : List Char) :
    tokens (name ++ rest) = name.map Token.plain ++ tokens rest := by
  induction name with
  | nil => rfl
  | cons c name ih =>
    have hne : c ≠ '\\' := by
      rintro rfl
      exact hname _ mem_cons_self (by decide)
    rw [cons_append, map_cons, cons_append,
      ← ih fun c hc => hname c (mem_cons_of_mem _ hc), tokens.eq_def]
    split
    · next h => cases h
    · next h => exact absurd (List.cons.inj h).1 hne
    · next h => exact absurd (List.cons.inj h).1 hne
    · next h => rw [(List.cons.inj h).1, (List.cons.inj h).2]

theorem readItems_ordinary {c : Char} (hc : c ∉ specialChars) (fuel depth : Nat) (first : Bool)
    (read : List Written) {s : ReadState} {rest : List Token} (hs : s.rest = .plain c :: rest)
    (hkept : s.flags.leavesOut c = false) (hrest : rest.head? ≠ some .stray) :
    (readItems (fuel + 1) depth first read).run s =
      (readItems fuel depth first (.item (charItem s.flags c.toNat) :: read)).run
        { s with rest := rest } := by
  have hpeek : Read.peek.run s = .ok (some (.plain c), s) := by
    simp only [Read.peek, StateT.run_bind, StateT.run_get, pure_bind, StateT.run_pure, hs,
      head?_cons]
    rfl
  have htake : Read.take.run s = .ok (.plain c, { s with rest := rest }) := by
    simp only [Read.take, StateT.run_bind, StateT.run_get, pure_bind, hs,
      beq_eq_false_iff_ne.2 hrest, if_neg Bool.false_ne_true]
    rfl
  have hne : ∀ d ∈ specialChars, c ≠ d := fun d hd h => hc (h ▸ hd)
  simp only [specialChars, forall_mem_cons] at hne
  rw [Flags.leavesOut, Bool.and_or_distrib_left, Bool.or_eq_false_iff] at hkept
  rw [readItems]
  simp only [StateT.run_bind, StateT.run_get, pure_bind, hpeek]
  show StateT.run _ s = _
  -- the ordinary character is the last of the cases on the next token
  split
  case h_6 =>
    cases hspaced : s.flags.spaced
    · simp_all
      rfl
    · simp_all
      rfl
  all_goals simp_all

theorem readItems_name (hname : ∀ c ∈ name, c ∉ specialChars) (fuel depth : Nat) (first : Bool)
    (read : List Written) {s : ReadState} {rest : List Token}
    (hs : s.rest = name.map Token.plain ++ rest) (hkept : ∀ c ∈ name, s.flags.leavesOut c = false)
    (hrest : rest.head? ≠ some .stray) :
    (readItems (fuel + name.length) depth first read).run s =
      (readItems fuel depth first ((literalItems s.flags name).reverse.map .item ++ read)).run
        { s with rest := rest } := by
  induction name generalizing read s with
  | nil =>
    rw [← show s.rest = rest from hs]
    rfl
  | cons c name ih =>
    have hnext : (name.map Token.plain ++ rest).head? ≠ some .stray := by
      cases name with
      | nil => exact hrest
      | cons d name => exact fun h => Token.noConfusion (Option.some.inj h)
    have hread := readItems_ordinary (hname c mem_cons_self) (fuel + name.length) depth first
      read hs (hkept c mem_cons_self) hnext
    have hrestOf := ih (fun c hc => hname c (mem_cons_of_mem _ hc))
      (.item (charItem s.flags c.toNat) :: read)
      (s := { s with rest := name.map Token.plain ++ rest }) rfl
      fun c hc => hkept c (mem_cons_of_mem _ hc)
    refine hread.trans (hrestOf.trans ?_)
    simp only [literalItems, map_cons, reverse_cons, map_append, map_nil,
      append_assoc, singleton_append]

end

theorem readAlternatives_of_readItems {fuel depth : Nat} (first : Bool) {items : List Item}
    {s t : ReadState} (hdepth : depth ≤ deepestNesting)
    (h : (readItems fuel depth (first && depth == 0) []).run s = .ok (items, t)) (ht : t.rest = []) :
    (readAlternatives (fuel + 1) depth first).run s = .ok ([items], t) := by
  have haccept : (Read.accept '|').run t = .ok (false, t) := by
    simp only [Read.accept, Read.peek, StateT.run_bind, StateT.run_get, pure_bind, StateT.run_pure,
      ht, head?_nil]
    rfl
  rw [readAlternatives, if_neg (Nat.not_lt.2 hdepth)]
  simp only [StateT.run_bind, h]
  change (Read.accept '|').run t >>= _ = _
  rw [haccept]
  rfl

theorem read_of_readItems {flags : Flags} {written : String} {items : List Item} {t : ReadState}
    (hstart : (tokens written.toList).head? ≠ some .stray)
    (h : (readItems (3 * (tokens written.toList).length + 3) 0 true []).run
      { rest := tokens written.toList, flags := flags } = .ok (items, t))
    (ht : t.rest = []) (hascii : t.flags.ascii = false) (hhighest : t.highest = 0)
    (hunfixed : t.unfixed = false) (honce : t.once = false) :
    Pattern.read flags written =
      .ok { node := sequence items, captures := t.next - 1, names := t.names } := by
  have hread := readAlternatives_of_readItems true (Nat.zero_le _) h ht
  rw [Pattern.read, beq_eq_false_iff_ne.2 hstart, if_neg Bool.false_ne_true, hread]
  change (if (t.flags.ascii && t.wide) = true then _ else _) = _
  cases t
  subst ht hhighest hunfixed honce
  rw [hascii]
  rfl

theorem itemsOf_map_item (items : List Item) : itemsOf (items.reverse.map .item) = items := by
  rw [itemsOf, ← map_reverse, reverse_reverse, flatMap_map]
  exact flatMap_singleton' items

theorem read_between {flags : Flags} {front back name : String} {frontItems backItems : List Item}
    (mid : ReadState) {last : ReadState} {a b : Nat} (hne : name.toList ≠ [])
    (hname : ∀ c ∈ name.toList, c ∉ specialChars)
    (hkept : ∀ c ∈ name.toList, flags.leavesOut c = false)
    (hfuel : a ≤ 3 * ((tokens front.toList).length + (tokens back.toList).length) + 3)
    (hsplit : ∀ rest, tokens (front.toList ++ rest) = tokens front.toList ++ tokens rest)
    (hstart : (tokens front.toList).head? ≠ some .stray)
    (hend : (tokens back.toList).head? ≠ some .stray)
    (hfront : ∀ n c rest, (readItems (n + a) 0 true []).run
        { rest := tokens front.toList ++ .plain c :: rest, flags := flags } =
      (readItems (n + b) 0 true (frontItems.reverse.map .item)).run
        { mid with rest := .plain c :: rest })
    (hback : ∀ n read, (readItems (n + b) 0 true read).run
        { mid with rest := tokens back.toList } =
      .ok (itemsOf (backItems.reverse.map .item ++ read), last))
    (hmid : mid.flags = flags) (hrest : last.rest = []) (hascii : last.flags.ascii = false)
    (hhighest : last.highest = 0) (hunfixed : last.unfixed = false) (honce : last.once = false) :
    Pattern.read flags (front ++ name ++ back) =
      .ok {
        node := sequence (frontItems ++ literalItems flags name.toList ++ backItems)
        captures := last.next - 1
        names := last.names } := by
  have htokens : tokens (front ++ name ++ back).toList =
      tokens front.toList ++ (name.toList.map Token.plain ++ tokens back.toList) := by
    rw [String.toList_append, String.toList_append, append_assoc, hsplit, tokens_append hname]
  obtain ⟨n, hn⟩ : ∃ n, 3 * (tokens (front ++ name ++ back).toList).length + 3 =
      n + name.toList.length + a := by
    rw [htokens, length_append, length_append, length_map]
    obtain ⟨n, hn⟩ := Nat.exists_eq_add_of_le hfuel
    exact ⟨n + 2 * name.toList.length, by omega⟩
  have hread : (readItems (n + name.toList.length + a) 0 true []).run
        { rest := tokens (front ++ name ++ back).toList, flags := flags } =
      .ok (frontItems ++ literalItems flags name.toList ++ backItems, last) := by
    have hmiddle := readItems_name hname (n + b) 0 true (frontItems.reverse.map .item)
      (s := { mid with rest := name.toList.map Token.plain ++ tokens back.toList }) rfl
      (hmid ▸ hkept) hend
    obtain ⟨c, cs, hcs⟩ := exists_cons_of_ne_nil hne
    rw [htokens, hcs, map_cons, cons_append, hfront, ← cons_append,
      ← map_cons (f := Token.plain), ← hcs, Nat.add_right_comm, hmiddle, hback,
      ← map_append, ← map_append, ← reverse_append, ← reverse_append,
      itemsOf_map_item, ← hmid]
  rw [← hn] at hread
  refine read_of_readItems ?_ hread hrest hascii hhighest hunfixed honce
  obtain ⟨c, cs, hcs⟩ := exists_cons_of_ne_nil hne
  rw [htokens, hcs]
  cases hfirst : tokens front.toList with
  | nil => exact fun h => Token.noConfusion (Option.some.inj h)
  | cons t rest =>
    rw [hfirst] at hstart
    exact hstart

end BindingStubs.Pattern
