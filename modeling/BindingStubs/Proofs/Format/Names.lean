import BindingStubs.Proofs.Format.Placements
import Mathlib.Data.List.TakeWhile

set_option autoImplicit false

/-! # Names of placed slots -/

namespace BindingStubs.Format

open List

def lead (name : String) : List Char := name.toList.takeWhile (· != '_')

theorem lead_eq_toList {name : String} (h : '_' ∉ name.toList) : lead name = name.toList := by
  rw [lead, takeWhile_eq_self_iff]
  intro c hc
  rw [bne_iff_ne]
  rintro rfl
  exact h hc

theorem toList_join (separator first : String) (rest : List String) :
    (Text.join separator (first :: rest)).toList =
      first.toList ++ rest.flatMap fun s => separator.toList ++ s.toList := by
  rw [Text.join, String.toList_intercalate]
  induction rest generalizing first with
  | nil => simp
  | cons second rest ih =>
    rw [map_cons, map_cons, intercalate_cons_cons, ← map_cons, ih]
    simp

theorem lead_join (first : String) (rest : List String) :
    lead (Text.join "_" (first :: rest)) = lead first := by
  have ended : (rest.flatMap fun s => "_".toList ++ s.toList).takeWhile (· != '_') = [] := by
    cases rest with
    | nil => rfl
    | cons s rest => rfl
  rw [lead, lead, toList_join, takeWhile_append, ended, append_nil]
  split
  · next whole => exact (List.takeWhile_prefix _).eq_of_length whole |>.symm
  · rfl

theorem lead_commonName (first : Slot) (rest : List Slot) :
    lead (Slot.commonName first rest) = lead first.name := by
  rw [Slot.commonName]
  split
  · rfl
  · exact lead_join _ _

def IsPlain (name : String) : Prop := ∀ d ∈ name.toList, Text.isAlnum d = true ∨ d = '-'

theorem IsPlain.notMem {name : String} (h : IsPlain name) {d : Char}
    (foreign : Text.isAlnum d = false ∧ d ≠ '-') : d ∉ name.toList := by
  intro hd
  rcases h d hd with alnum | minus
  · rw [foreign.1] at alnum
    cases alnum
  · exact foreign.2 minus

theorem isAsciiDigit_of_mem_repr {n : Nat} {d : Char} (h : d ∈ n.repr.toList) :
    d.toNat < 128 ∧ Text.isAsciiDigit d = true := by
  rw [Nat.toList_repr] at h
  have digit : Text.isAsciiDigit d = true := by
    simpa [Char.isDigit, Text.isAsciiDigit, Char.le_def] using
      Nat.isDigit_of_mem_toDigits (by decide) (by decide) h
  have last : d ≤ '9' := of_decide_eq_true (Bool.and_eq_true_iff.mp digit).2
  have bound : d.toNat ≤ '9'.toNat := last
  exact ⟨Nat.lt_of_le_of_lt bound (by decide), digit⟩

theorem isAlnum_of_mem_repr {n : Nat} {d : Char} (h : d ∈ n.repr.toList) :
    Text.isAlnum d = true := by
  obtain ⟨ascii, digit⟩ := isAsciiDigit_of_mem_repr h
  rw [Text.isAlnum, if_pos ascii, digit, Bool.or_true]

namespace ParseCall

variable (c : ParseCall)

theorem isPlain_madeUpName (number : Nat) : IsPlain (c.madeUpName number) := by
  intro d h
  rw [madeUpName, String.toList_append, mem_append] at h
  rcases h with h | h
  · have letters : "arg".toList.all Text.isAlnum = true := by decide
    exact .inl (all_eq_true.mp letters d h)
  · change d ∈ (Int.repr (c.firstNumber + (number : Int))).toList at h
    rw [Int.repr_eq_if] at h
    split at h
    · exact .inl (isAlnum_of_mem_repr h)
    · rw [String.toList_append, mem_append] at h
      rcases h with h | h
      · exact .inr (mem_singleton.mp h)
      · exact .inl (isAlnum_of_mem_repr h)

theorem isPlain_receiverAt {code : String} {index : Nat} {name : String}
    (h : c.receiverAt code index = some name) : IsPlain name := by
  have usable := (Option.filter_eq_some_iff.mp h).2
  rw [Text.isAlnumText, Bool.and_eq_true, all_eq_true] at usable
  exact fun d hd => .inl (usable.2 d hd)

def offered (offer : Nat × Option String) : String := offer.2.getD (c.madeUpName offer.1)

theorem isPlain_offered (code : String) (index number : Nat) :
    IsPlain (c.offered (number, c.receiverAt code index)) := by
  rw [offered]
  cases received : c.receiverAt code index with
  | none => exact c.isPlain_madeUpName number
  | some name => exact c.isPlain_receiverAt received

end ParseCall

/-- A place in a format: the next argument, the number of the next parameter, and how many groups
are open. -/
structure Cursor where
  index : Nat
  number : Nat
  depth : Nat

namespace Cursor

def after (k : Cursor) : Symbol → Cursor
  | .unit u =>
    { k with index := k.index + u.size, number := if k.depth = 0 then k.number + 1 else k.number }
  | .groupStart => { k with depth := k.depth + 1 }
  | .groupEnd =>
    { k with number := if k.depth ≤ 1 then k.number + 1 else k.number, depth := k.depth - 1 }
  | .optional | .keywordOnly | .unknown => k

/-- The parameter that a unit belongs to, and the variable that it offers as a name. -/
def offer? (c : ParseCall) (k : Cursor) : Symbol → Option (Nat × Option String)
  | .unit u => some (k.number, c.receiverAt u.code k.index)
  | _ => none

end Cursor

def offersFrom (c : ParseCall) : Cursor → List Symbol → List (Nat × Option String)
  | _, [] => []
  | k, x :: xs => (k.offer? c x).toList ++ offersFrom c (k.after x) xs

theorem offersFrom_append (c : ParseCall) (k : Cursor) (xs ys : List Symbol) :
    offersFrom c k (xs ++ ys) = offersFrom c k xs ++ offersFrom c (xs.foldl Cursor.after k) ys := by
  induction xs generalizing k with
  | nil => rfl
  | cons x xs ih =>
    rw [cons_append, offersFrom, offersFrom, ih, foldl_cons, append_assoc]

theorem isPlain_of_mem_offersFrom {c : ParseCall} {k : Cursor} {xs : List Symbol}
    {offer : Nat × Option String} (h : offer ∈ offersFrom c k xs) : IsPlain (c.offered offer) := by
  induction xs generalizing k with
  | nil => cases h
  | cons x xs ih =>
    rw [offersFrom, mem_append] at h
    rcases h with h | h
    · cases x with
      | unit u =>
        obtain rfl := mem_singleton.mp h
        exact c.isPlain_offered u.code k.index k.number
      | _ => cases h
    · exact ih h

def Progress.cursor (p : Progress) : Cursor :=
  ⟨p.argumentIndex, p.parameterIndex, p.groups.open_.length⟩

def offers (c : ParseCall) (xs : List Symbol) : List (Nat × Option String) :=
  offersFrom c (Progress.initial c).cursor xs

variable {c : ParseCall} {p q : Progress}

variable {m : Option Placement}

theorem Placed.cursor {slot : Slot} (h : Placed p slot m q) :
    q.cursor = { p.cursor with
      number := if p.groups.open_ = [] then p.parameterIndex + 1 else p.parameterIndex } := by
  cases h with
  | inside opened => simp [Progress.cursor, opened]
  | outside closed => simp [Progress.cursor, closed]

theorem Placed.parameterIndex {slot : Slot} (h : Placed p slot m q) :
    q.parameterIndex = p.parameterIndex + m.toList.length := by
  cases h <;> rfl

theorem Advances.cursor {x : Symbol} (h : Advances c p x m q) : q.cursor = p.cursor.after x := by
  cases h with
  | groupStart | optional | keywordOnly | unknown => rfl
  | groupEnd opened grouped placed =>
    rw [placed.cursor]
    simp [Progress.cursor, Cursor.after, opened]
  | unit defaulted placed =>
    have moved := placed.cursor
    simp only [Progress.cursor, Cursor.mk.injEq] at moved
    simp [Progress.cursor, Cursor.after, moved]

theorem Advances.parameterIndex {x : Symbol} (h : Advances c p x m q) :
    q.parameterIndex = p.parameterIndex + m.toList.length := by
  cases h with
  | groupStart | optional | keywordOnly | unknown => rfl
  | groupEnd opened grouped placed => exact placed.parameterIndex
  | unit defaulted placed => exact placed.parameterIndex

variable {done : List Placement} {before : List Symbol}

theorem Reached.cursor (h : Reached c before done p) :
    p.cursor = before.foldl Cursor.after (Progress.initial c).cursor := by
  induction h with
  | start => rfl
  | step _ advances ih => rw [advances.cursor, ih, foldl_append, foldl_cons, foldl_nil]

theorem Reached.parameterIndex (h : Reached c before done p) : p.parameterIndex = done.length := by
  induction h with
  | start => rfl
  | step _ advances ih => rw [advances.parameterIndex, ih, length_append]

theorem offers_concat (h : Reached c before done p) (x : Symbol) :
    offers c (before ++ [x]) = offers c before ++ (p.cursor.offer? c x).toList := by
  rw [offers, offersFrom_append, ← h.cursor, offersFrom, offersFrom, append_nil]
  rfl

/-- A name that a parameter can get: its keyword, or else one that begins as a unit offered. -/
structure IsNameOf (c : ParseCall) (offers : List (Nat × Option String)) (number : Nat)
    (name : String) : Prop where
  keyword : ∀ keyword, c.keywordAt number = some keyword → name = keyword
  offered : c.keywordAt number = none →
    ∃ receiver, (number, receiver) ∈ offers ∧
      lead name = (c.offered (number, receiver)).toList

theorem IsNameOf.mono {offers offers' : List (Nat × Option String)} (subset : offers ⊆ offers')
    {number : Nat} {name : String} (h : IsNameOf c offers number name) :
    IsNameOf c offers' number name := by
  refine ⟨h.keyword, fun unnamed => ?_⟩
  obtain ⟨v, hmem, begins⟩ := h.offered unnamed
  exact ⟨v, subset hmem, begins⟩

variable {offers : List (Nat × Option String)}

theorem IsNameOf.commonName {number : Nat} {first : Slot} {rest : List Slot}
    (h : ∀ slot ∈ first :: rest, IsNameOf c offers number slot.name) :
    IsNameOf c offers number (Slot.commonName first rest) := by
  have hfirst := h first mem_cons_self
  constructor
  · intro keyword given
    have same : (rest.all fun slot => slot.name == first.name) = true := by
      rw [all_eq_true]
      intro slot hslot
      rw [(h slot (mem_cons_of_mem _ hslot)).keyword keyword given,
        hfirst.keyword keyword given, beq_self_eq_true]
    rw [Slot.commonName, if_pos same]
    exact hfirst.keyword keyword given
  · rw [lead_commonName]
    exact hfirst.offered

theorem isNameOf_nameAt {u : ArgumentUnit} {k : Cursor}
    (h : (k.number, c.receiverAt u.code k.index) ∈ offers) :
    IsNameOf c offers k.number (c.nameAt u.code k.index k.number) := by
  constructor
  · intro keyword given
    rw [ParseCall.nameAt, given, Option.getD_some]
  · intro unnamed
    refine ⟨_, h, ?_⟩
    rw [ParseCall.nameAt, unnamed, Option.getD_none]
    exact lead_eq_toList ((c.isPlain_offered u.code k.index k.number).notMem (by decide))

structure Named (c : ParseCall) (offers : List (Nat × Option String)) (done : List Placement)
    (p : Progress) : Prop where
  grouped : ∀ slots ∈ p.groups.open_, ∀ slot ∈ slots,
    IsNameOf c offers p.parameterIndex slot.name
  placed : ∀ i m, done[i]? = some m → IsNameOf c offers i m.slot.name

theorem Named.of_eq (h : Named c offers done p) (groups : q.groups = p.groups)
    (index : q.parameterIndex = p.parameterIndex) : Named c offers done q := by
  refine ⟨?_, h.placed⟩
  rw [groups, index]
  exact h.grouped

theorem Placed.named {slot : Slot} (h : Placed p slot m q) (named : Named c offers done p)
    (index : p.parameterIndex = done.length) (name : IsNameOf c offers p.parameterIndex slot.name) :
    Named c offers (done ++ m.toList) q := by
  cases h with
  | inside opened =>
    refine ⟨?_, ?_⟩
    · have grouped := named.grouped
      rw [opened, forall_mem_cons] at grouped
      rw [forall_mem_cons, forall_mem_append, forall_mem_singleton]
      exact ⟨⟨grouped.1, name⟩, grouped.2⟩
    · rw [Option.toList_none, append_nil]
      exact named.placed
  | outside closed =>
    refine ⟨by simp [closed], fun i m hm => ?_⟩
    rw [Option.toList_some, getElem?_append] at hm
    split at hm
    · exact named.placed i m hm
    · next beyond =>
      rw [getElem?_singleton] at hm
      split at hm
      · cases hm
        rwa [index, show done.length = i by omega] at name
      · cases hm

theorem Advances.named {x : Symbol} (h : Advances c p x m q) (named : Named c offers done p)
    (index : p.parameterIndex = done.length)
    (offered : ∀ offer, p.cursor.offer? c x = some offer → offer ∈ offers) :
    Named c offers (done ++ m.toList) q := by
  cases h with
  | groupStart =>
    rw [Option.toList_none, append_nil]
    refine ⟨?_, named.placed⟩
    rw [Groups.start, forall_mem_cons]
    exact ⟨by simp, named.grouped⟩
  | optional | keywordOnly | unknown =>
    rw [Option.toList_none, append_nil]
    exact named.of_eq rfl rfl
  | @groupEnd slots outer slot m q opened grouped placed =>
    have inner := named.grouped
    rw [opened, forall_mem_cons] at inner
    refine placed.named ⟨inner.2, named.placed⟩ index ?_
    cases slots with
    | nil => cases grouped
    | cons first rest =>
      cases grouped
      exact .commonName inner.1
  | unit defaulted placed =>
    have name := isNameOf_nameAt (k := p.cursor) (offered _ rfl)
    exact (placed.named (named.of_eq rfl rfl) index name).of_eq rfl rfl

theorem Reached.named (h : Reached c before done p) : Named c (Format.offers c before) done p := by
  induction h with
  | start => exact ⟨by simp [Progress.initial], by simp⟩
  | @step before done p q x m reached advances ih =>
    have more := offers_concat reached x
    refine advances.named ⟨?_, ?_⟩ reached.parameterIndex ?_
    · exact fun slots hslots slot hslot =>
        (ih.grouped slots hslots slot hslot).mono (by simp [more])
    · exact fun i m hm => (ih.placed i m hm).mono (by simp [more])
    · intro offer hoffer
      simp [more, hoffer]

end BindingStubs.Format
