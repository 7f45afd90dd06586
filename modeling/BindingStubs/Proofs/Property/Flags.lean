import BindingStubs.Proofs.Inference.Ending
import BindingStubs.Proofs.Pattern.Marks
import BindingStubs.Proofs.Text.Replacing
import BindingStubs.Property.Macro
import Mathlib.Logic.Relation

set_option autoImplicit false

/-! # Bits of written flags -/

namespace BindingStubs.Property

open Inference Pattern ClassSection List

def partBits (body : String) (place : Nat) (ask : String → Except Fault Nat) (part : String) :
    Except Fault Nat :=
  (bitsOf? part).elim (lastAssigned body place part >>= ask) .ok

/-- The bits of written flags, resolved down to a depth at which `bottom` answers. -/
def bitsOver (body : String) (place : Nat) (bottom : String → Except Fault Nat) :
    (depth : Nat) → String → Except Fault Nat
  | 0 => bottom
  | depth + 1 => fun written =>
    joinBits (partBits body place (bitsOver body place bottom depth)) 0 (flagParts written)

/-- Resolution comes to its end before a depth, whatever would be answered there. -/
def EndsWithin (body : String) (place depth : Nat) (written : String) : Prop :=
  ∀ bottom, bitsOver body place bottom depth written = bitsWithin body place depth written

/-- While a text is resolved, the value of one of its parts is resolved: that of a variable before
which all bits are found. -/
def Leads (body : String) (place : Nat) (written value : String) : Prop :=
  ∃ front part back, flagParts written = front ++ part :: back ∧
    (∀ p ∈ front, ∃ depth bits, partBits body place (bitsWithin body place depth) p = .ok bits) ∧
    bitsOf? part = none ∧ lastAssigned body place part = .ok value

/-- Resolution gets to a text that leads back to itself. -/
def Circular (body : String) (place : Nat) (written : String) : Prop :=
  ∃ value, Relation.ReflTransGen (Leads body place) written value ∧
    Relation.TransGen (Leads body place) value value

section
variable {body : String} {place depth : Nat} {written value : String}

theorem bitsWithin_eq (depth : Nat) :
    bitsWithin body place depth = bitsOver body place (fun _ => .error .tooDeep) depth := by
  induction depth with
  | zero => rfl
  | succ depth ih =>
    funext written
    rw [bitsWithin, bitsOver, ← ih]
    congr 1
    funext part
    rw [partBits]
    cases bitsOf? part <;> rfl

theorem bitsWithin_succ (depth : Nat) (written : String) :
    bitsWithin body place (depth + 1) written =
      joinBits (partBits body place (bitsWithin body place depth)) 0 (flagParts written) := by
  rw [bitsWithin_eq, bitsWithin_eq]
  rfl

theorem bitsOver_add (bottom : String → Except Fault Nat) (depth more : Nat) :
    bitsOver body place bottom (depth + more) =
      bitsOver body place (bitsOver body place bottom more) depth := by
  induction depth with
  | zero => rw [Nat.zero_add]; rfl
  | succ depth ih => rw [Nat.succ_add, bitsOver, ih]; rfl

/-- A result does not depend on what the bottom answers, or fails as the bottom does. -/
def Decided (result : (String → Except Fault Nat) → Except Fault Nat) : Prop :=
  (∀ bottom, result bottom = result fun _ => .error .tooDeep) ∨
    ∀ fault, (result fun _ => .error fault) = .error fault

theorem Decided.bind {first : (String → Except Fault Nat) → Except Fault Nat}
    {next : Nat → (String → Except Fault Nat) → Except Fault Nat} (hfirst : Decided first)
    (hnext : ∀ bits, Decided (next bits)) :
    Decided fun bottom => first bottom >>= fun bits => next bits bottom := by
  rcases hfirst with hsame | hfault
  · simp only [Decided, hsame]
    cases first fun _ => .error .tooDeep with
    | error fault => exact .inl fun _ => rfl
    | ok bits => exact hnext bits
  · right
    intro fault
    simp only [hfault fault]
    rfl

theorem decided_joinBits {f : (String → Except Fault Nat) → String → Except Fault Nat}
    (h : ∀ part, Decided fun bottom => f bottom part) (bits : Nat) (parts : List String) :
    Decided fun bottom => joinBits (f bottom) bits parts := by
  induction parts generalizing bits with
  | nil => exact .inl fun _ => rfl
  | cons part parts ih => exact (h part).bind fun found => ih (bits ||| found)

theorem decided_partBits {f : (String → Except Fault Nat) → String → Except Fault Nat}
    (h : ∀ value, Decided fun bottom => f bottom value) (part : String) :
    Decided fun bottom => partBits body place (f bottom) part := by
  simp only [partBits]
  cases bitsOf? part with
  | some bits => exact .inl fun _ => rfl
  | none =>
    cases lastAssigned body place part with
    | error fault => exact .inl fun _ => rfl
    | ok value => exact h value

theorem decided_bitsOver (depth : Nat) (written : String) :
    Decided fun bottom => bitsOver body place bottom depth written := by
  induction depth generalizing written with
  | zero => exact .inr fun _ => rfl
  | succ depth ih => exact decided_joinBits (fun part => decided_partBits ih part) 0 _

theorem endsWithin_or_fault (depth : Nat) (written : String) :
    EndsWithin body place depth written ∨
      ∀ fault, bitsOver body place (fun _ => .error fault) depth written = .error fault := by
  rw [EndsWithin, bitsWithin_eq]
  exact decided_bitsOver depth written

theorem not_endsWithin
    (h : ∀ fault, bitsOver body place (fun _ => .error fault) depth written = .error fault) :
    ¬ EndsWithin body place depth written := by
  intro hends
  have hother := (h .noOwner).symm.trans (hends _)
  rw [bitsWithin_eq, h] at hother
  cases hother

theorem EndsWithin.add (h : EndsWithin body place depth written) (more : Nat) :
    EndsWithin body place (depth + more) written ∧
      bitsWithin body place (depth + more) written = bitsWithin body place depth written := by
  have hsame :
      bitsWithin body place (depth + more) written = bitsWithin body place depth written := by
    rw [bitsWithin_eq, bitsOver_add, h]
  refine ⟨fun bottom => ?_, hsame⟩
  rw [bitsOver_add, h, hsame]

theorem partBits_of_ok {part : String} {bits : Nat}
    (h : partBits body place (bitsWithin body place depth) part = .ok bits) (other : Nat)
    (fault : Fault) :
    partBits body place (bitsOver body place (fun _ => .error fault) other) part = .ok bits ∨
      partBits body place (bitsOver body place (fun _ => .error fault) other) part =
        .error fault := by
  have hdecided (d : Nat) :
      Decided fun bottom => partBits body place (bitsOver body place bottom d) part :=
    decided_partBits (decided_bitsOver d) part
  rw [bitsWithin_eq] at h
  rcases hdecided other with hother | hfault
  · left
    rcases hdecided depth with hdepth | hfault
    · -- both are what is found at the two depths together
      have hsum := hdepth (bitsOver body place (fun _ => .error .tooDeep) other)
      simp only [← bitsOver_add] at hsum
      rw [h, Nat.add_comm, bitsOver_add] at hsum
      exact (hother _).trans ((hother _).symm.trans hsum)
    · cases (hfault .tooDeep).symm.trans h
  · exact .inr (hfault fault)

theorem joinBits_eq_error {f : String → Except Fault Nat} {front back : List String} {part : String}
    {fault : Fault} (hfront : ∀ p ∈ front, (∃ bits, f p = .ok bits) ∨ f p = .error fault)
    (hpart : f part = .error fault) (bits : Nat) :
    joinBits f bits (front ++ part :: back) = .error fault := by
  induction front generalizing bits with
  | nil =>
    rw [nil_append, joinBits, hpart]
    rfl
  | cons p front ih =>
    rw [forall_mem_cons] at hfront
    rw [cons_append, joinBits]
    rcases hfront.1 with ⟨found, hp⟩ | hp
    · rw [hp]
      exact ih hfront.2 (bits ||| found)
    · rw [hp]
      rfl

theorem EndsWithin.of_leads (h : EndsWithin body place depth written)
    (hleads : Leads body place written value) : ∃ d < depth, EndsWithin body place d value := by
  cases depth with
  | zero => cases h fun _ => .ok 0
  | succ depth =>
    refine ⟨depth, Nat.lt_succ_self depth, ?_⟩
    by_contra hvalue
    obtain ⟨front, part, back, hparts, hfront, hnone, hassigned⟩ := hleads
    refine not_endsWithin (fun fault => ?_) h
    simp only [bitsOver, hparts]
    refine joinBits_eq_error (fun p hp => ?_) ?_ 0
    · obtain ⟨d, bits, hbits⟩ := hfront p hp
      exact (partBits_of_ok hbits depth fault).imp_left fun hok => ⟨bits, hok⟩
    · rw [partBits, hnone, hassigned]
      exact (endsWithin_or_fault depth value).resolve_left hvalue fault

theorem endsWithin_succ
    (h : ∀ value, Leads body place written value → EndsWithin body place depth value) :
    EndsWithin body place (depth + 1) written := by
  intro bottom
  rw [bitsWithin_succ]
  simp only [bitsOver]
  -- the parts before have their bits, so a variable that comes next is one the text leads to
  suffices hparts : ∀ front back bits, flagParts written = front ++ back →
      (∀ p ∈ front, ∃ d bits, partBits body place (bitsWithin body place d) p = .ok bits) →
      joinBits (partBits body place (bitsOver body place bottom depth)) bits back =
        joinBits (partBits body place (bitsWithin body place depth)) bits back from
    hparts [] _ 0 (nil_append _).symm (forall_mem_nil _)
  intro front back
  induction back generalizing front with
  | nil => exact fun _ _ _ => rfl
  | cons part back ih =>
    intro bits hparts hfront
    have hpart : partBits body place (bitsOver body place bottom depth) part =
        partBits body place (bitsWithin body place depth) part := by
      simp only [partBits]
      cases hnone : bitsOf? part with
      | some found => rfl
      | none =>
        cases hassigned : lastAssigned body place part with
        | error fault => rfl
        | ok value => exact h value ⟨front, part, back, hparts, hfront, hnone, hassigned⟩ bottom
    rw [joinBits, joinBits, hpart]
    cases hfound : partBits body place (bitsWithin body place depth) part with
    | error fault => rfl
    | ok found =>
      refine ih (front ++ [part]) (bits ||| found) (by rw [hparts]; simp) ?_
      rw [forall_mem_append, forall_mem_singleton]
      exact ⟨hfront, depth, found, hfound⟩

theorem EndsWithin.of_transGen (h : EndsWithin body place depth written)
    (hleads : Relation.TransGen (Leads body place) written value) :
    ∃ d < depth, EndsWithin body place d value := by
  induction hleads with
  | single hleads => exact h.of_leads hleads
  | tail _ hlast ih =>
    obtain ⟨d, hd, hends⟩ := ih
    obtain ⟨e, he, hends⟩ := hends.of_leads hlast
    exact ⟨e, he.trans hd, hends⟩

theorem EndsWithin.not_circular (h : EndsWithin body place depth written) :
    ¬ Circular body place written := by
  rintro ⟨value, hreach, hcycle⟩
  have hnever : ∀ d, ¬ EndsWithin body place d value := by
    intro d
    induction d using Nat.strong_induction_on with
    | _ d ih =>
      intro hends
      obtain ⟨e, he, hends⟩ := hends.of_transGen hcycle
      exact ih e he hends
  rcases Relation.reflTransGen_iff_eq_or_transGen.1 hreach with rfl | htrans
  · exact hnever depth h
  · obtain ⟨d, -, hends⟩ := h.of_transGen htrans
    exact hnever d hends

theorem bitsWithin_of_circular (h : Circular body place written) (depth : Nat) :
    bitsWithin body place depth written = .error .tooDeep := by
  rw [bitsWithin_eq]
  exact (endsWithin_or_fault depth written).resolve_left (fun hends => hends.not_circular h) _

theorem mem_partsOf_of_leads (h : Leads body place written value) :
    value ∈ partsOf body.toList := by
  obtain ⟨front, part, back, -, -, -, hassigned⟩ := h
  simp only [lastAssigned, bind, Except.bind] at hassigned
  split at hassigned
  · cases hassigned
  · split at hassigned
    · next m hm =>
      cases hassigned
      exact mem_partsOf.2 ((Pattern.Regex.of_mem_matchesIn (mem_of_getLast? hm)).infix_group _)
    · cases hassigned

/-- Without a circle every text that is led to is a new one, so resolution ends when the texts are
used up. -/
theorem endsWithin_card {texts : Finset String}
    (htexts : ∀ value, Relation.TransGen (Leads body place) written value → value ∈ texts)
    (h : ¬ Circular body place written) : EndsWithin body place (texts.card + 1) written := by
  induction texts using Finset.strongInduction generalizing written with
  | H texts ih =>
    refine endsWithin_succ fun value hleads => ?_
    have hvalue : value ∈ texts := htexts value (.single hleads)
    have hends : EndsWithin body place ((texts.erase value).card + 1) value := by
      refine ih _ (Finset.erase_ssubset hvalue) (fun later hlater => ?_) ?_
      · refine Finset.mem_erase.2 ⟨?_, htexts later (.head hleads hlater)⟩
        rintro rfl
        exact h ⟨later, .single hleads, hlater⟩
      · rintro ⟨later, hreach, hcycle⟩
        exact h ⟨later, .head hleads hreach, hcycle⟩
    rwa [Finset.card_erase_add_one hvalue] at hends

end

/-- Resolving written flags ends at some depth exactly if no text on the way leads back to itself.
Then it ends at every depth above the number of parts of the body, with the same result. Otherwise
every depth is too small. -/
theorem resolution_ends_iff (body : String) (place : Nat) (written : String) :
    ((∃ depth, EndsWithin body place depth written) ↔ ¬ Circular body place written) ∧
      (¬ Circular body place written → ∀ depth, (partsOf body.toList).card < depth →
        EndsWithin body place depth written ∧ bitsWithin body place depth written =
          bitsWithin body place ((partsOf body.toList).card + 1) written) ∧
      (Circular body place written → ∀ depth,
        bitsWithin body place depth written = .error .tooDeep) := by
  have hmem : ∀ value, Relation.TransGen (Leads body place) written value →
      value ∈ partsOf body.toList := by
    intro value h
    obtain ⟨_, -, hlast⟩ := Relation.TransGen.tail'_iff.1 h
    exact mem_partsOf_of_leads hlast
  refine ⟨⟨?_, fun h => ⟨_, endsWithin_card hmem h⟩⟩, fun h depth hdepth => ?_,
    bitsWithin_of_circular⟩
  · rintro ⟨depth, h⟩
    exact h.not_circular
  · obtain ⟨more, rfl⟩ := Nat.exists_eq_add_of_le (Nat.succ_le_of_lt hdepth)
    exact (endsWithin_card hmem h).add more

/-- A variable that flags are added to is resolved without end. -/
theorem accumulated_never_ends :
    lastAssigned "flags = Prop_ReadOnly;flags = flags | Prop_Hidden;" 50 "flags" =
        .ok " flags | Prop_Hidden" ∧
      ∀ depth, bitsWithin "flags = Prop_ReadOnly;flags = flags | Prop_Hidden;" 50 depth "flags" =
        .error .tooDeep := by
  have hlast : lastAssigned "flags = Prop_ReadOnly;flags = flags | Prop_Hidden;" 50 "flags" =
      .ok " flags | Prop_Hidden" := by decide +kernel
  refine ⟨hlast, bitsWithin_of_circular ⟨" flags | Prop_Hidden", .single ?_, .single ?_⟩⟩
  · exact ⟨[], "flags", [], by decide +kernel, forall_mem_nil _, by decide, hlast⟩
  · exact ⟨[], "flags", ["Prop_Hidden"], by decide +kernel, forall_mem_nil _, by decide, hlast⟩

structure WrittenFlag where
  name : String
  bits : Nat
  known : bitsOf? name = some bits
  inApp : Bool
  inType : Bool

namespace WrittenFlag
variable (f : WrittenFlag)

def bare : List Char := (if f.inType then "PropertyType::".toList else []) ++ f.name.toList

def chars : List Char := (if f.inApp then "App::".toList else []) ++ f.bare

end WrittenFlag

inductive Wrapping where
  | none
  | parentheses
  | cast

namespace Wrapping

def front : Wrapping → List Char
  | none => []
  | parentheses => ['(']
  | cast => "static_cast<App::PropertyType>(".toList

def back : Wrapping → List Char
  | none => []
  | _ => [')']

def bareFront : Wrapping → List Char
  | cast => "static_cast<PropertyType>".toList
  | _ => []

end Wrapping

/-- A text that has flags joined by bars, with blanks and line ends anywhere. -/
def Writes (text : String) (w : Wrapping) (first : WrittenFlag) (rest : List WrittenFlag) : Prop :=
  text.toList.filter (fun c => c != '\n' && c != ' ') =
    w.front ++ (first.chars ++ (rest.flatMap (fun f => '|' :: f.chars) ++ w.back))

/-- A character that neither starts a namespace nor has a meaning in patterns, as bars and
parentheses have. -/
def isFlagChar (c : Char) : Bool := c != 'A' && !specialChars.contains c

theorem exists_name_of_bitsOf? {name : String} {bits : Nat} (h : bitsOf? name = some bits) :
    (∃ tail, name.toList = "Prop_".toList ++ tail) ∧ name.toList.all isFlagChar = true := by
  have hnames : (noFlag :: flags.map Flag.name).all (fun n =>
      "Prop_".toList.isPrefixOf n.toList && n.toList.all isFlagChar) = true := by decide
  have hname : name ∈ noFlag :: flags.map Flag.name := by
    rw [bitsOf?] at h
    split_ifs at h with hnone
    · exact mem_cons.2 (.inl (by simpa using hnone))
    · obtain ⟨flag, hflag, -⟩ := Option.map_eq_some_iff.1 h
      refine mem_cons_of_mem _ (mem_map.2 ⟨flag, mem_of_find?_eq_some hflag, ?_⟩)
      simpa using find?_some hflag
  have hboth := all_eq_true.1 hnames name hname
  rw [Bool.and_eq_true, isPrefixOf_iff_prefix] at hboth
  obtain ⟨⟨tail, htail⟩, hplain⟩ := hboth
  exact ⟨⟨tail, htail.symm⟩, hplain⟩

theorem WrittenFlag.isFlagChar_of_mem (f : WrittenFlag) {c : Char} (hc : c ∈ f.bare) :
    isFlagChar c = true := by
  rcases mem_append.1 hc with hc | hc
  · have hfront : ("PropertyType::".toList).all isFlagChar = true := by decide
    split at hc
    · exact all_eq_true.1 hfront c hc
    · cases hc
  · exact all_eq_true.1 (exists_name_of_bitsOf? f.known).2 c hc

section
variable {f first : WrittenFlag} {rest : List WrittenFlag}

def clean (cs : List Char) : List Char :=
  ((Chars.replace cs "App::".toList []).filter (· != '(')).filter (· != ')')

theorem clean_append {cs : List Char} (h : ∀ c ∈ cs, isFlagChar c = true) (more : List Char) :
    clean (cs ++ more) = cs ++ clean more := by
  have hspace : 'A' ∉ cs := fun hmem => Bool.false_ne_true (h 'A' hmem)
  have hkept : ∀ d, isFlagChar d = false → cs.filter (· != d) = cs := by
    intro d hd
    refine filter_eq_self.2 fun c hc => bne_iff_ne.2 ?_
    rintro rfl
    exact Bool.false_ne_true (hd.symm.trans (h c hc))
  have hreplace : Chars.replace (cs ++ more) "App::".toList [] =
      cs ++ Chars.replace more "App::".toList [] := Chars.replace_append_of_notMem hspace _ [] more
  rw [clean, hreplace, filter_append, filter_append, hkept '(' rfl, hkept ')' rfl, clean]

theorem clean_chars (f : WrittenFlag) (more : List Char) :
    clean (f.chars ++ more) = f.bare ++ clean more := by
  rw [WrittenFlag.chars, ← clean_append (fun _ => f.isFlagChar_of_mem)]
  split
  · rw [append_assoc, clean, Pattern.replace_append (by decide), nil_append, clean]
  · rw [nil_append]

theorem clean_flatMap (rest : List WrittenFlag) (more : List Char) :
    clean (rest.flatMap (fun f => '|' :: f.chars) ++ more) =
      rest.flatMap (fun f => '|' :: f.bare) ++ clean more := by
  induction rest with
  | nil => rfl
  | cons f rest ih =>
    rw [flatMap_cons, flatMap_cons, append_assoc, append_assoc, ← ih,
      cons_append, cons_append, ← clean_chars]
    rfl

theorem clean_front (w : Wrapping) (more : List Char) :
    clean (w.front ++ more) = w.bareFront ++ clean more := by
  cases w <;> rfl

theorem clean_back (w : Wrapping) : clean w.back = [] := by
  cases w <;> rfl

theorem dropStart_bare (w : Wrapping) (first : WrittenFlag) (more : List Char) :
    Chars.dropStart (Chars.dropStart (Chars.dropStart (w.bareFront ++ (first.bare ++ more))
      "static_cast<PropertyType>".toList) "PropertyType".toList) "::".toList =
        first.name.toList ++ more := by
  obtain ⟨tail, htail⟩ := (exists_name_of_bitsOf? first.known).1
  rw [WrittenFlag.bare, htail]
  cases w <;> split <;> rfl

theorem split_flatMap {piece : List Char} (h : '|' ∉ piece) (rest : List WrittenFlag) :
    Chars.split (piece ++ rest.flatMap fun f => '|' :: f.bare) ['|'] =
      piece :: rest.map WrittenFlag.bare := by
  induction rest generalizing piece with
  | nil =>
    rw [Chars.split, Chars.splitLoop_append h]
    simp [Chars.splitLoop]
  | cons f rest ih =>
    have hbar : '|' ∉ f.bare := fun hmem => Bool.false_ne_true (f.isFlagChar_of_mem hmem)
    have hcut : ∀ back after : List Char, Chars.splitLoop ['|'] 0 back ('|' :: after) =
        back.reverse :: Chars.split after ['|'] := Chars.splitLoop_separator
    rw [flatMap_cons, cons_append, Chars.split, Chars.splitLoop_append h, hcut, ih hbar]
    simp

theorem flagParts_of_writes {text : String} {w : Wrapping} (h : Writes text w first rest) :
    flagParts text = first.name :: rest.map fun f => String.ofList f.bare := by
  have hclean : ((Chars.replace ((text.toList.filter (· != '\n')).filter (· != ' '))
      "App::".toList []).filter (· != '(')).filter (· != ')') =
      w.bareFront ++ (first.bare ++ rest.flatMap fun f => '|' :: f.bare) := by
    rw [← clean, filter_filter, ← append_nil (rest.flatMap _), ← clean_back w,
      ← clean_flatMap, ← clean_chars, ← clean_front, ← h]
    simp only [Bool.and_comm]
  have hname : '|' ∉ first.name.toList := fun hmem => Bool.false_ne_true
    (all_eq_true.1 (exists_name_of_bitsOf? first.known).2 '|' hmem)
  simp only [flagParts, Text.split, Text.dropStart, Text.replace, String.toList_ofList]
  rw [show "\n".toList = ['\n'] from rfl, show " ".toList = [' '] from rfl,
    show "(".toList = ['('] from rfl, show ")".toList = [')'] from rfl,
    show "|".toList = ['|'] from rfl, show "".toList = [] from rfl]
  simp only [Chars.replace_singleton]
  rw [hclean, dropStart_bare, split_flatMap hname, map_cons, String.ofList_toList,
    map_map]
  rfl

end

def Assigned (body : String) (place : Nat) (name : List Char) : Prop :=
  ∃ gap value, IsGap gap ∧ ';' ∉ value ∧
    name ++ (gap ++ '=' :: (value ++ [';'])) <:+: body.toList.take place

def assignedItems : List Item :=
  [gapItem, markItem '=', ⟨.bundle, .capture 1 (manyOfSet (allBut ';') 0)⟩, markItem ';']

def assignedState : ReadState :=
  { rest := [], next := 2, names := [("value", 1)], widths := [(1, 0, none)] }

def assignedRegex (name : List Char) : Regex where
  node := sequence (literalItems {} name ++ assignedItems)
  captures := 1
  names := [("value", 1)]

theorem readItems_assignedText (n : Nat) (read : List Pattern.Written) :
    (readItems (n + 20) 0 true read).run { rest := tokens "\\s*=(?P<value>[^;]*);".toList } =
      .ok (itemsOf (assignedItems.reverse.map .item ++ read), assignedState) := by
  cbv

theorem exists_of_takes_assigned {name word : List Char}
    (h : Takes (assignedRegex name).node word) :
    ∃ gap value, IsGap gap ∧ ';' ∉ value ∧ word = name ++ (gap ++ '=' :: (value ++ [';'])) := by
  simp only [assignedRegex, assignedItems, takes_literal_append, takes_gap_cons,
    takes_mark_cons] at h
  obtain ⟨_, ⟨gap, _, hgap, ⟨_, h, rfl⟩, rfl⟩, rfl⟩ := h
  rw [takes_sequence_cons] at h
  obtain ⟨value, _, hvalue, h, rfl⟩ := h
  rw [takes_mark_cons] at h
  obtain ⟨_, h, rfl⟩ := h
  refine ⟨gap, value, hgap, fun hmem => ?_, by rw [takes_empty.1 h]⟩
  exact (has_allBut ';' ';').1 ((takes_many.1 (takes_capture.1 hvalue)).2 ';' hmem) rfl

theorem lastAssigned_of_not_assigned {body name : String} {place : Nat} (hne : name.toList ≠ [])
    (hname : ∀ c ∈ name.toList, c ∉ specialChars) (h : ¬ Assigned body place name.toList) :
    lastAssigned body place name = .error .noFlagVariable := by
  have hread : Pattern.read {} (name ++ "\\s*=(?P<value>[^;]*);") =
      .ok (assignedRegex name.toList) :=
    read_name_append 20 hne hname (by decide) (by decide) readItems_assignedText rfl rfl rfl rfl rfl
  have hnone : (assignedRegex name.toList).matchesIn body.toList 0 place = [] := by
    rw [Regex.matchesIn, if_neg (Nat.not_lt_zero _), Regex.spotAt_zero]
    refine Regex.matchesLoop_of_none ((scan_eq_none_iff ?_).2 fun word hword hpart => ?_) _
    · exact isRegular_literal_append (by decide)
    · obtain ⟨gap, value, hgap, hvalue, rfl⟩ := exists_of_takes_assigned hword
      exact h ⟨gap, value, hgap, hvalue, hpart⟩
  rw [lastAssigned, hread]
  simp only [bind, Except.bind, hnone]
  rfl

section
variable {body : String} {place : Nat} {ask : String → Except Fault Nat} {f : WrittenFlag}

theorem partBits_of_known {name : String} {bits : Nat} (h : bitsOf? name = some bits) :
    partBits body place ask name = .ok bits := by
  rw [partBits, h]
  rfl

theorem partBits_of_bare (h : f.inType = false) :
    partBits body place ask (String.ofList f.bare) = .ok f.bits := by
  rw [WrittenFlag.bare, h, if_neg Bool.false_ne_true, nil_append, String.ofList_toList,
    partBits_of_known f.known]

theorem partBits_of_qualified (h : f.inType = true) (hfree : ¬ Assigned body place f.bare) :
    partBits body place ask (String.ofList f.bare) = .error .noFlagVariable := by
  have hstart : f.bare = "PropertyType::".toList ++ f.name.toList := by
    rw [WrittenFlag.bare, if_pos h]
  have hnone : bitsOf? (String.ofList f.bare) = none := by
    by_contra hknown
    obtain ⟨bits, hbits⟩ := Option.ne_none_iff_exists'.1 hknown
    obtain ⟨tail, htail⟩ := (exists_name_of_bitsOf? hbits).1
    rw [String.toList_ofList, hstart] at htail
    cases htail
  rw [partBits, hnone, Option.elim_none, lastAssigned_of_not_assigned]
  · rfl
  · rw [String.toList_ofList, hstart]
    simp
  · rw [String.toList_ofList]
    intro c hc
    have hflag := f.isFlagChar_of_mem hc
    rw [isFlagChar, Bool.and_eq_true] at hflag
    simpa using hflag.2
  · rwa [String.toList_ofList]

theorem joinBits_of_known {f : String → Except Fault Nat} {g : WrittenFlag → String}
    {flags : List WrittenFlag} (h : ∀ flag ∈ flags, f (g flag) = .ok flag.bits) (bits : Nat) :
    ∃ found, joinBits f bits (flags.map g) = .ok found ∧
      ∀ i, found.testBit i = (bits.testBit i || flags.any (·.bits.testBit i)) := by
  induction flags generalizing bits with
  | nil => exact ⟨bits, rfl, fun i => by simp⟩
  | cons flag flags ih =>
    rw [forall_mem_cons] at h
    obtain ⟨found, hfound, htest⟩ := ih h.2 (bits ||| flag.bits)
    refine ⟨found, ?_, fun i => ?_⟩
    · rw [map_cons, joinBits, h.1]
      exact hfound
    · rw [htest, Nat.testBit_or, any_cons, Bool.or_assoc]

end

theorem bits_of_qualified {body : String} {place : Nat} {text : String} {w : Wrapping}
    {first f : WrittenFlag} {rest : List WrittenFlag} (h : Writes text w first rest) (hf : f ∈ rest)
    (htype : f.inType = true) (hfree : ∀ f ∈ rest, f.inType = true → ¬ Assigned body place f.bare) :
    Property.bits body place text = .error .noFlagVariable := by
  obtain ⟨front, back, rfl⟩ := append_of_mem hf
  rw [Property.bits, deepestFlags, bitsWithin_succ, flagParts_of_writes h, map_append,
    map_cons, ← cons_append]
  refine joinBits_eq_error (fun part hpart => ?_) (partBits_of_qualified htype (hfree f hf htype)) 0
  rcases mem_cons.1 hpart with rfl | hpart
  · exact .inl ⟨_, partBits_of_known first.known⟩
  · obtain ⟨flag, hflag, rfl⟩ := mem_map.1 hpart
    cases hflagType : flag.inType with
    | false => exact .inl ⟨_, partBits_of_bare hflagType⟩
    | true =>
      have hflagFree := hfree flag (mem_append_left _ hflag) hflagType
      exact .inr (partBits_of_qualified hflagType hflagFree)

/-- Written flags are the union of their bits if only the first of them is qualified by its type.
With a later one that is qualified nothing is found, unless the body assigns to its name. -/
theorem bits_of_writes (body : String) (place : Nat) {text : String} {w : Wrapping}
    {first : WrittenFlag} {rest : List WrittenFlag} (h : Writes text w first rest) :
    ((∀ f ∈ rest, f.inType = false) → ∃ bits, Property.bits body place text = .ok bits ∧
        ∀ i, bits.testBit i = (first :: rest).any (·.bits.testBit i)) ∧
      ((∃ f ∈ rest, f.inType = true) →
        (∀ f ∈ rest, f.inType = true → ¬ Assigned body place f.bare) →
        Property.bits body place text = .error .noFlagVariable) := by
  refine ⟨fun hrest => ?_, fun hqualified hfree => ?_⟩
  · obtain ⟨found, hfound, htest⟩ := joinBits_of_known
      (fun f hf => partBits_of_bare (hrest f hf)) (0 ||| first.bits)
    rw [Nat.zero_or] at htest
    refine ⟨found, ?_, htest⟩
    rw [Property.bits, deepestFlags, bitsWithin_succ, flagParts_of_writes h, joinBits,
      partBits_of_known first.known]
    exact hfound
  · obtain ⟨f, hf, htype⟩ := hqualified
    exact bits_of_qualified h hf htype hfree

def readOnlyInType : WrittenFlag where
  name := "Prop_ReadOnly"
  bits := 1
  known := by decide
  inApp := true
  inType := true

def hiddenFlag (inType : Bool) : WrittenFlag where
  name := "Prop_Hidden"
  bits := 4
  known := by decide
  inApp := true
  inType := inType

def castText : String :=
  "static_cast<App::PropertyType>(App::PropertyType::Prop_ReadOnly |\n App::Prop_Hidden)"

theorem bits_of_writes_cast :
    Writes castText .cast readOnlyInType [hiddenFlag false] ∧
      (∀ f ∈ [hiddenFlag false], f.inType = false) ∧
      ∃ bits, Property.bits "" 0 castText = .ok bits ∧
        ∀ i, bits.testBit i = [readOnlyInType, hiddenFlag false].any (·.bits.testBit i) := by
  have hwrites : Writes castText .cast readOnlyInType [hiddenFlag false] := by
    unfold Writes
    decide +kernel
  have hrest : ∀ f ∈ [hiddenFlag false], f.inType = false := forall_mem_singleton.2 rfl
  exact ⟨hwrites, hrest, (bits_of_writes "" 0 hwrites).1 hrest⟩

/-- Of two flags of the type the second is not found. -/
theorem secondInType_not_found :
    Writes "App::PropertyType::Prop_ReadOnly|App::PropertyType::Prop_Hidden" .none readOnlyInType
        [hiddenFlag true] ∧
      Property.bits "" 0 "App::PropertyType::Prop_ReadOnly|App::PropertyType::Prop_Hidden" =
        .error .noFlagVariable := by
  have hwrites : Writes "App::PropertyType::Prop_ReadOnly|App::PropertyType::Prop_Hidden" .none
      readOnlyInType [hiddenFlag true] := by
    unfold Writes
    decide +kernel
  refine ⟨hwrites, bits_of_qualified hwrites mem_cons_self rfl fun f _ _ => ?_⟩
  rintro ⟨gap, value, -, -, hpart⟩
  simp at hpart

end BindingStubs.Property
