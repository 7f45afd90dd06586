import BindingStubs.Proofs.Format.Order
import BindingStubs.Proofs.Text.Tables

set_option autoImplicit false

/-! # Valid and distinct names -/

namespace BindingStubs

open List

namespace Text

def IsParameterName (name : String) : Prop := isIdentifier name = true ∧ isKeyword name = false

instance (name : String) : Decidable (IsParameterName name) := inferInstanceAs (Decidable (_ ∧ _))

theorem all_isNamePart {name : String} (h : isIdentifier name = true) :
    name.toList.all isNamePart = true := by
  rw [isIdentifier] at h
  cases hname : name.toList with
  | nil => rfl
  | cons c rest =>
    rw [hname, isName, Bool.and_eq_true] at h
    rw [all_cons, isNamePart_of_isNameStart h.1, h.2]
    rfl

theorem isName_append {front back : List Char} (hfront : isName front = true)
    (hback : back.all isNamePart = true) : isName (front ++ back) = true := by
  cases front with
  | nil => cases hfront
  | cons c rest =>
    rw [isName, Bool.and_eq_true] at hfront
    rw [cons_append, isName, all_append, hfront.1, hfront.2, hback]
    rfl

theorem isIdentifier_join {first : String} {rest : List String} (hfirst : isIdentifier first = true)
    (hrest : ∀ name ∈ rest, isIdentifier name = true) :
    isIdentifier (join "_" (first :: rest)) = true := by
  rw [isIdentifier, Format.toList_join]
  refine isName_append hfirst ?_
  rw [all_flatMap, all_eq_true]
  intro name hname
  rw [all_append, all_isNamePart (hrest name hname)]
  decide

theorem isKeyword_of_mem_underscore {name : String} (h : '_' ∈ name.toList) :
    isKeyword name = false := by
  have plain : keywords.all (fun word => !word.toList.contains '_') = true := by decide
  rw [isKeyword, contains_eq_mem, decide_eq_false_iff_not]
  intro hmem
  have without := all_eq_true.mp plain name hmem
  rw [contains_eq_mem, decide_eq_true h] at without
  cases without

end Text

namespace Format

open Text (IsParameterName)

variable {c : ParseCall}

theorem isParameterName_commonName {first : Slot} {rest : List Slot}
    (h : ∀ slot ∈ first :: rest, IsParameterName slot.name) :
    IsParameterName (Slot.commonName first rest) := by
  rw [forall_mem_cons] at h
  rw [Slot.commonName]
  split
  · exact h.1
  · next different =>
    refine ⟨Text.isIdentifier_join h.1.1 ?_, Text.isKeyword_of_mem_underscore ?_⟩
    · intro name hname
      obtain ⟨slot, hslot, rfl⟩ := mem_map.mp hname
      exact (h.2 slot hslot).1
    · cases rest with
      | nil => exact absurd rfl different
      | cons second rest =>
        rw [map_cons, toList_join]
        simp

theorem toList_madeUpName (counted : 0 ≤ c.firstNumber) (number : Nat) :
    (c.madeUpName number).toList =
      "arg".toList ++ (c.firstNumber + (number : Int)).toNat.repr.toList := by
  have positive : 0 ≤ c.firstNumber + (number : Int) := by omega
  rw [ParseCall.madeUpName, String.toList_append]
  change _ ++ (Int.repr (c.firstNumber + (number : Int))).toList = _
  rw [Int.repr_eq_if, if_pos positive]

theorem isParameterName_madeUpName (counted : 0 ≤ c.firstNumber) (number : Nat) :
    IsParameterName (c.madeUpName number) := by
  have written := toList_madeUpName counted number
  constructor
  · rw [Text.isIdentifier, written]
    refine Text.isName_append (by decide) (all_eq_true.mpr fun d hd => ?_)
    obtain ⟨ascii, digit⟩ := isAsciiDigit_of_mem_repr hd
    rw [Text.isNamePart, if_pos ascii, digit, Bool.or_true]
  · have free : Text.keywords.all (fun word => !"arg".toList.isPrefixOf word.toList) = true := by
      decide
    rw [Text.isKeyword, contains_eq_mem, decide_eq_false_iff_not]
    intro hmem
    have other := all_eq_true.mp free _ hmem
    rw [written, isPrefixOf_iff_prefix.mpr (prefix_append _ _)] at other
    cases other

theorem madeUpName_injective (counted : 0 ≤ c.firstNumber) {i j : Nat}
    (h : c.madeUpName i = c.madeUpName j) : i = j := by
  have digits := congrArg String.toList h
  rw [toList_madeUpName counted, toList_madeUpName counted, append_cancel_left_eq,
    Nat.toList_repr, Nat.toList_repr] at digits
  have numbers := congrArg (fun ds => Nat.ofDigitChars 10 ds 0) digits
  rw [Nat.ofDigitChars_toDigits (by decide) (by decide),
    Nat.ofDigitChars_toDigits (by decide) (by decide)] at numbers
  omega

theorem isPrefix_offers {read xs : List Symbol} (h : read <+: xs) : offers c read <+: offers c xs := by
  obtain ⟨later, rfl⟩ := h
  rw [offers, offers, offersFrom_append]
  exact prefix_append _ _

theorem nameAt_eq_offered {number : Nat} (unnamed : c.keywordAt number = none) (code : String)
    (index : Nat) : c.nameAt code index number = c.offered (number, c.receiverAt code index) := by
  rw [ParseCall.nameAt, unnamed]
  rfl

variable {done : List Placement} {before : List Symbol} {p : Progress}

theorem Reached.isParameterName (unnamed : ∀ number, c.keywordAt number = none)
    (h : Reached c before done p)
    (valid : ∀ offer ∈ offers c before, IsParameterName (c.offered offer)) :
    ∀ slot ∈ slotsSoFar done p, IsParameterName slot.name := by
  induction h with
  | start => simp [slotsSoFar, Progress.initial]
  | @step before done p q x m reached advances ih =>
    rw [offers_concat reached x, forall_mem_append] at valid
    have slots := ih valid.1
    cases advances with
    | groupStart => simpa [slotsSoFar, Groups.start] using slots
    | optional | keywordOnly | unknown => simpa [slotsSoFar] using slots
    | @groupEnd inner outer slot _ _ opened grouped placed =>
      rw [slotsSoFar_of_open opened, forall_mem_append] at slots
      rw [placed.slotsSoFar, forall_mem_append, forall_mem_singleton]
      refine ⟨slots.1, ?_⟩
      cases inner with
      | nil => cases grouped
      | cons first rest =>
        cases grouped
        exact isParameterName_commonName slots.2
    | @unit u type default _ q defaulted placed =>
      have extended := placed.slotsSoFar done
      change ∀ slot ∈ slotsSoFar (done ++ m.toList) q, _
      rw [extended, forall_mem_append, forall_mem_singleton]
      refine ⟨slots, ?_⟩
      dsimp only
      rw [nameAt_eq_offered (unnamed _)]
      exact valid.2 _ (mem_singleton_self _)

theorem eq_of_mem_of_nodup {offers : List (Nat × Option String)}
    (different : (offers.filterMap Prod.snd).Nodup) {i j : Nat} {name : String}
    (hi : (i, some name) ∈ offers) (hj : (j, some name) ∈ offers) : i = j := by
  induction offers with
  | nil => cases hi
  | cons offer offers ih =>
    have elsewhere : ∀ k, offer.2 = some name → (k, some name) ∉ offers := by
      intro k own hk
      rw [filterMap_cons_some own, nodup_cons] at different
      exact different.1 (mem_filterMap.mpr ⟨_, hk, rfl⟩)
    have rest : (offers.filterMap Prod.snd).Nodup :=
      different.sublist ((sublist_cons_self offer offers).filterMap Prod.snd)
    rcases mem_cons.mp hi with rfl | hi'
    · rcases mem_cons.mp hj with hj | hj
      · exact (congrArg Prod.fst hj).symm
      · exact absurd hj (elsewhere j rfl)
    · rcases mem_cons.mp hj with rfl | hj
      · exact absurd hi' (elsewhere i rfl)
      · exact ih rest hi' hj

def ParseCall.unitOffers (c : ParseCall) : List (Nat × Option String) :=
  offers c ((symbols c.format).map Prod.fst)

def ParseCall.receivers (c : ParseCall) : List String := c.unitOffers.filterMap Prod.snd

/-- Variables have names for parameters, and none has the made-up name of another parameter. -/
structure ParseCall.NamesFit (c : ParseCall) : Prop where
  valid : ∀ name ∈ c.receivers, IsParameterName name
  free : ∀ i name j, (i, some name) ∈ c.unitOffers → (j, none) ∈ c.unitOffers → i ≠ j →
    name ≠ c.madeUpName j

theorem ParseCall.NamesFit.isParameterName (fit : c.NamesFit) (counted : 0 ≤ c.firstNumber)
    {offer : Nat × Option String} (h : offer ∈ c.unitOffers) :
    IsParameterName (c.offered offer) := by
  obtain ⟨number, receiver⟩ := offer
  cases receiver with
  | none => exact isParameterName_madeUpName counted number
  | some name => exact fit.valid name (mem_filterMap.mpr ⟨_, h, rfl⟩)

theorem ParseCall.NamesFit.number_eq (fit : c.NamesFit) (counted : 0 ≤ c.firstNumber)
    (different : c.receivers.Nodup) {i j : Nat} {first second : Option String}
    (hi : (i, first) ∈ c.unitOffers) (hj : (j, second) ∈ c.unitOffers)
    (same : c.offered (i, first) = c.offered (j, second)) : i = j := by
  by_contra apart
  cases first with
  | none =>
    cases second with
    | none => exact apart (madeUpName_injective counted same)
    | some name => exact fit.free j name i hj hi (Ne.symm apart) same.symm
  | some name =>
    cases second with
    | none => exact fit.free i name j hi hj apart same
    | some other =>
      obtain rfl : name = other := same
      exact apart (eq_of_mem_of_nodup different hi hj)

theorem Reached.nodup_names (unnamed : ∀ number, c.keywordAt number = none) (fit : c.NamesFit)
    (counted : 0 ≤ c.firstNumber) (different : c.receivers.Nodup) (h : Reached c before done p)
    (begins : before <+: (symbols c.format).map Prod.fst) :
    (done.map fun m => m.slot.name).Nodup := by
  have offered := (isPrefix_offers (c := c) begins).subset
  refine pairwise_map.mpr (pairwise_of_rel fun i j m n lt hm hn same => ?_)
  obtain ⟨first, hfirst, beginsFirst⟩ := (h.named.placed i m hm).offered (unnamed i)
  obtain ⟨second, hsecond, beginsSecond⟩ := (h.named.placed j n hn).offered (unnamed j)
  rw [same, beginsSecond] at beginsFirst
  have number := fit.number_eq counted different (offered hsecond) (offered hfirst)
    (String.toList_inj.mp beginsFirst)
  omega

theorem Reached.map_name (unnamed : ∀ number, c.keywordAt number = none)
    (h : Reached c before done p) {ps : List Parameter} (makes : Makes done ps) :
    ps.map Parameter.name = done.map fun m => m.slot.name := by
  have length : done.length = ps.length := makes.length_eq
  refine ext_getElem (by simp [length]) fun i hi _ => ?_
  rw [length_map] at hi
  obtain ⟨m, hm, made⟩ := makes.exists_placement (getElem?_eq_getElem hi)
  have implicit := (h.named.placed i m hm).isSome_implicitNumber?
  rw [ParseCall.isImplicit, unnamed i, Option.bind_none, Option.isSome_none,
    Option.isSome_eq_false_iff, Option.isNone_iff_eq_none] at implicit
  obtain ⟨_, same⟩ := List.getElem?_eq_some_iff.mp hm
  rw [getElem_map, getElem_map, (Parameter.make_parts made).1, Parameter.givenName,
    implicit, same]
  rfl

theorem Reached.exists_make (unnamed : ∀ number, c.keywordAt number = none) (fit : c.NamesFit)
    (counted : 0 ≤ c.firstNumber) (h : Reached c before done p)
    (begins : before <+: (symbols c.format).map Prod.fst) {m : Placement} (hm : m ∈ done) :
    IsParameterName m.slot.name ∧ ∃ x, m.make = .ok x := by
  have offered := (isPrefix_offers (c := c) begins).subset
  have name := h.isParameterName unnamed
    (fun _ hoffer => fit.isParameterName counted (offered hoffer)) m.slot
    (mem_append_left _ (mem_map_of_mem hm))
  refine ⟨name, ?_⟩
  have single : ¬ (m.kind = .varPositional ∨ m.kind = .varKeyword) := by
    rcases h.kindsAscend.placed m hm with kind | kind
    · rw [kind, Progress.initial]
      cases c.keywords.isEmpty <;> simp
    · simp [kind]
  rw [Placement.make, Parameter.make_of_identifier name.1, if_neg]
  · exact ⟨_, rfl⟩
  · rintro (⟨-, several⟩ | ⟨keyword, -⟩)
    · exact single several
    · rw [name.2] at keyword
      cases keyword

def ParseCall.IsFlat (c : ParseCall) : Prop := .groupStart ∉ (symbols c.format).map Prod.fst

instance : Decidable c.IsFlat := inferInstanceAs (Decidable (¬ _))

theorem Reached.names_eq (unnamed : ∀ number, c.keywordAt number = none)
    (h : Reached c before done p) (flat : .groupStart ∉ before) :
    p.groups.open_ = [] ∧ (done.map fun m => m.slot.name) = (offers c before).map c.offered := by
  induction h with
  | start => exact ⟨rfl, rfl⟩
  | @step before done p q x m reached advances ih =>
    rw [mem_append, mem_singleton, not_or] at flat
    obtain ⟨closed, names⟩ := ih flat.1
    rw [offers_concat reached x, map_append, map_append, ← names]
    cases advances with
    | groupStart => exact absurd rfl flat.2
    | optional | keywordOnly | unknown => exact ⟨closed, rfl⟩
    | groupEnd opened =>
      rw [closed] at opened
      cases opened
    | @unit u type default m q defaulted placed =>
      cases placed with
      | inside opened =>
        rw [closed] at opened
        cases opened
      | outside =>
        refine ⟨closed, congrArg _ (congrArg (fun name => [name]) ?_)⟩
        exact nameAt_eq_offered (unnamed _) u.code p.argumentIndex

theorem ParseCall.NamesFit.of_offered (distinct : (c.unitOffers.map c.offered).Nodup)
    (valid : ∀ offer ∈ c.unitOffers, IsParameterName (c.offered offer)) : c.NamesFit := by
  constructor
  · intro name hname
    obtain ⟨⟨number, _⟩, hoffer, rfl⟩ := mem_filterMap.mp hname
    exact valid _ hoffer
  · intro i name j hi hj _ same
    have equal := inj_on_of_nodup_map distinct hi hj same
    cases equal

end Format

end BindingStubs
