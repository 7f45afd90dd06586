import BindingStubs.Pattern.Matcher
import BindingStubs.Proofs.Text.Infix

set_option autoImplicit false

/-! # Places reached by a pattern -/

namespace BindingStubs.Pattern

open List

/-- A property of places that the two steps of a run over certain characters keep. -/
structure Kept (Q : Char → Prop) (P : Spot → Prop) : Prop where
  move : ∀ {s : Spot} {c : Char} {rest : List Char}, s.rest = c :: rest → Q c → P s →
    P (s.move c rest)
  record : ∀ {s : Spot} (caught : List (Nat × Nat × Nat)), P s → P { s with caught := caught }

/-- A way through a part of a pattern goes on only from places with the property. -/
def Leads (P : Spot → Prop) (go : Spot → Next → Option Spot) : Prop :=
  ∀ {s : Spot} {next : Next} {r : Spot}, P s → go s next = some r → ∃ t, P t ∧ next t = some r

section
variable {Q : Char → Prop} {P : Spot → Prop} {has : Char → Bool}

theorem firstOf_eq_some {next : Next} {spots : List Spot} {r : Spot}
    (h : firstOf next spots = some r) : ∃ s ∈ spots, next s = some r := by
  induction spots with
  | nil => cases h
  | cons s spots ih =>
    rw [firstOf] at h
    split at h
    · next found hs => exact ⟨s, mem_cons_self, hs.trans h⟩
    · obtain ⟨t, ht, hr⟩ := ih h
      exact ⟨t, mem_cons_of_mem s ht, hr⟩

theorem Kept.spread (hP : Kept Q P) (hhas : ∀ c, has c = true → Q c) {bound : Option Nat}
    {rest : List Char} {s : Spot} {earlier : List Spot} (hrest : s.rest = rest) (hs : P s)
    (hearlier : ∀ t ∈ earlier, P t) :
    ∀ t ∈ spread has bound rest s earlier, P t := by
  have hhere : ∀ t ∈ s :: earlier, P t := by
    intro t ht
    rcases mem_cons.1 ht with rfl | ht
    · exact hs
    · exact hearlier t ht
  induction rest generalizing bound s earlier with
  | nil => exact hhere
  | cons c rest ih =>
    rw [Pattern.spread]
    split_ifs with hbound hc
    · exact hhere
    · have hmoved := hP.move hrest (hhas c hc) hs
      exact ih rfl hmoved hhere (forall_mem_cons.2 ⟨hmoved, hhere⟩)
    · exact hhere

theorem Kept.fewest (hP : Kept Q P) (hhas : ∀ c, has c = true → Q c) {next : Next}
    {bound : Option Nat} {rest : List Char} {s r : Spot} (hrest : s.rest = rest) (hs : P s)
    (h : fewest has next bound rest s = some r) :
    ∃ t, P t ∧ next t = some r := by
  induction rest generalizing bound s with
  | nil => exact ⟨s, hs, h⟩
  | cons c rest ih =>
    rw [Pattern.fewest] at h
    split at h
    · next found hnext => exact ⟨s, hs, hnext.trans h⟩
    · split_ifs at h with hbound hc
      exact ih rfl (hP.move hrest (hhas c hc) hs) h

theorem Kept.exactly (hP : Kept Q P) (hhas : ∀ c, has c = true → Q c) {n : Nat} {s t : Spot}
    (hs : P s) (h : exactly? has n s = some t) : P t := by
  induction n generalizing s with
  | zero =>
    cases h
    exact hs
  | succ n ih =>
    rw [exactly?] at h
    split at h
    · cases h
    · next c rest hrest =>
      split_ifs at h with hc
      exact ih (hP.move hrest (hhas c hc) hs) h

theorem Kept.runSet (hP : Kept Q P) (hhas : ∀ c, has c = true → Q c) (atLeast : Nat)
    (atMost : Option Nat) (greed : Greed) :
    Leads P (runSet has atLeast atMost greed) := by
  intro s next r hs h
  rw [Pattern.runSet] at h
  split at h
  · cases h
  · next s' hs' =>
    have hstart : P s' := hP.exactly hhas hs hs'
    have hreached : ∀ t ∈ Pattern.spread has (atMost.map (· - atLeast)) s'.rest s' [], P t :=
      hP.spread hhas rfl hstart (forall_mem_nil P)
    cases greed with
    | most =>
      obtain ⟨t, ht, hr⟩ := firstOf_eq_some h
      exact ⟨t, hreached t ht, hr⟩
    | least => exact hP.fewest hhas rfl hstart h
    | keep =>
      obtain ⟨t, ht, hr⟩ := firstOf_eq_some h
      exact ⟨t, hreached t (mem_of_mem_take ht), hr⟩

section
variable {body : Spot → Next → Option Spot}

theorem Leads.timesOf (h : Leads P body) (n : Nat) : Leads P (timesOf body n) := by
  induction n with
  | zero => exact fun hs hr => ⟨_, hs, hr⟩
  | succ n ih =>
    intro s next r hs hr
    obtain ⟨t, ht, hnext⟩ := h hs hr
    exact ih ht hnext

theorem Leads.manyOf (h : Leads P body) (fuel : Nat) (bound : Option Nat) :
    Leads P (manyOf body fuel bound) := by
  induction fuel generalizing bound with
  | zero => exact fun hs hr => ⟨_, hs, hr⟩
  | succ fuel ih =>
    intro s next r hs hr
    rw [Pattern.manyOf] at hr
    split_ifs at hr
    · exact ⟨s, hs, hr⟩
    · split at hr
      · next found hbody =>
        obtain ⟨t, ht, hnext⟩ := h hs (hbody.trans hr)
        split_ifs at hnext
        · exact ⟨t, ht, hnext⟩
        · exact ih _ ht hnext
      · exact ⟨s, hs, hr⟩

theorem Leads.fewOf (h : Leads P body) (fuel : Nat) (bound : Option Nat) :
    Leads P (fewOf body fuel bound) := by
  induction fuel generalizing bound with
  | zero => exact fun hs hr => ⟨_, hs, hr⟩
  | succ fuel ih =>
    intro s next r hs hr
    rw [Pattern.fewOf] at hr
    split at hr
    · next found hnext => exact ⟨s, hs, hnext.trans hr⟩
    · split_ifs at hr
      obtain ⟨t, ht, hnext⟩ := h hs hr
      split_ifs at hnext
      · exact ⟨t, ht, hnext⟩
      · exact ih _ ht hnext

theorem Leads.once (h : Leads P body) {s t : Spot} (hs : P s) (ht : body s some = some t) : P t := by
  obtain ⟨u, hu, heq⟩ := h hs ht
  cases heq
  exact hu

theorem Leads.keepTimes (h : Leads P body) {n : Nat} {s t : Spot} (hs : P s)
    (ht : keepTimes body n s = some t) : P t := by
  induction n generalizing s with
  | zero =>
    cases ht
    exact hs
  | succ n ih =>
    obtain ⟨u, hu, htail⟩ := Option.bind_eq_some_iff.1 ht
    exact ih (h.once hs hu) htail

theorem Leads.keepOf (h : Leads P body) {fuel : Nat} {bound : Option Nat} {s : Spot} (hs : P s) :
    P (keepOf body fuel bound s) := by
  induction fuel generalizing bound s with
  | zero => exact hs
  | succ fuel ih =>
    rw [Pattern.keepOf]
    split_ifs
    · exact hs
    · split
      · exact hs
      · next t ht =>
        split_ifs
        · exact h.once hs ht
        · exact ih (h.once hs ht)

end

def Node.Goes (Q : Char → Prop) : Node → Prop
  | .set cs => ∀ c, cs.has c = true → Q c
  | .seq a b | .alt a b | .given _ a b => a.Goes Q ∧ b.Goes Q
  | .rounds body _ _ _ | .capture _ body | .atomic body => body.Goes Q
  | .again _ _ _ => ∀ c, Q c
  | _ => True

theorem Node.goes_anywhere (node : Node) : node.Goes fun _ => True := by
  induction node <;> simp_all [Goes]

theorem Kept.take (hP : Kept Q P) (hall : ∀ c, Q c) {f : Text.Folding} {part : List Char}
    {s t : Spot} (hs : P s) (h : s.take? f part = some t) : P t := by
  induction part generalizing s with
  | nil =>
    cases h
    exact hs
  | cons c part ih =>
    rw [Spot.take?] at h
    split at h
    · cases h
    · next d rest hrest =>
      split_ifs at h
      exact ih (hP.move hrest (hall d) hs) h

theorem Kept.run (hP : Kept Q P) (text : List Char) {node : Node} (hnode : node.Goes Q) :
    Leads P (run text node) := by
  induction node with
  | empty => exact fun hs hr => ⟨_, hs, hr⟩
  | set cs =>
    intro s next r hs hr
    rw [Pattern.run] at hr
    split at hr
    · cases hr
    · next c rest hrest =>
      split_ifs at hr with hc
      exact ⟨_, hP.move hrest (hnode c hc) hs, hr⟩
  | seq a b iha ihb =>
    intro s next r hs hr
    obtain ⟨t, ht, hnext⟩ := iha hnode.1 hs hr
    exact ihb hnode.2 ht hnext
  | alt a b iha ihb =>
    intro s next r hs hr
    rw [Pattern.run] at hr
    split at hr
    · next found ha => exact iha hnode.1 hs (ha.trans hr)
    · exact ihb hnode.2 hs hr
  | rounds body atLeast atMost greed ih =>
    intro s next r hs hr
    unfold Pattern.run at hr
    dsimp only at hr
    split at hr
    · exact hP.runSet hnode atLeast atMost greed hs hr
    · have hbody := @ih hnode
      cases greed with
      | most =>
        obtain ⟨t, ht, hnext⟩ := hbody.timesOf atLeast hs hr
        exact hbody.manyOf _ _ ht hnext
      | least =>
        obtain ⟨t, ht, hnext⟩ := hbody.timesOf atLeast hs hr
        exact hbody.fewOf _ _ ht hnext
      | keep =>
        dsimp only at hr
        split at hr
        · next t ht => exact ⟨_, hbody.keepOf (hbody.keepTimes hs ht), hr⟩
        · cases hr
  | capture index body ih =>
    intro s next r hs hr
    obtain ⟨t, ht, hnext⟩ := ih hnode hs hr
    exact ⟨_, hP.record _ ht, hnext⟩
  | again index folding width =>
    intro s next r hs hr
    rw [Pattern.run] at hr
    split at hr
    · cases hr
    · split at hr
      · next t ht => exact ⟨t, hP.take hnode hs ht, hr⟩
      · cases hr
  | ahead wanted body ih =>
    intro s next r hs hr
    rw [Pattern.run] at hr
    split at hr <;> split_ifs at hr
    · exact ⟨_, hP.record _ hs, hr⟩
    · exact ⟨s, hs, hr⟩
  | behind wanted width body ih =>
    intro s next r hs hr
    rw [Pattern.run] at hr
    split at hr <;> split_ifs at hr
    · exact ⟨_, hP.record _ hs, hr⟩
    · exact ⟨s, hs, hr⟩
  | atomic body ih =>
    intro s next r hs hr
    rw [Pattern.run] at hr
    split at hr
    · next t ht => exact ⟨t, Leads.once (ih hnode) hs ht, hr⟩
    · cases hr
  | given index yes no ihyes ihno =>
    intro s next r hs hr
    rw [Pattern.run] at hr
    split_ifs at hr
    · exact ihyes hnode.1 hs hr
    · exact ihno hnode.2 hs hr
  | textStart | textEnd | lastLineEnd | wordEdge =>
    intro s next r hs hr
    rw [Pattern.run] at hr
    split_ifs at hr
    exact ⟨s, hs, hr⟩
  | lineStart | lineEnd =>
    intro s next r hs hr
    rw [Pattern.run] at hr
    split at hr
    · exact ⟨s, hs, hr⟩
    · split_ifs at hr
      exact ⟨s, hs, hr⟩

end

def Spot.Inside (length : Nat) (s : Spot) : Prop := s.place + s.rest.length = length

theorem kept_inside (length : Nat) : Kept (fun _ => True) (Spot.Inside length) where
  move := by
    intro s c rest hrest _ hs
    rw [Spot.Inside, hrest, length_cons] at hs
    change s.place + 1 + rest.length = length
    omega
  record := fun _ hs => hs

namespace Regex

theorem inside_spotAt {text : List Char} {lo : Nat} (h : lo ≤ text.length) :
    (spotAt text lo).Inside text.length := by
  simp only [Spot.Inside, spotAt, length_reverse, length_take, length_drop]
  omega

theorem inside_scan {r : Regex} {text rest : List Char} {mustMove : Bool} {s : Spot} {length : Nat}
    {found : Nat × Spot} (hrest : s.rest = rest) (hs : s.Inside length)
    (h : scan r text mustMove rest s = some found) : found.2.Inside length := by
  have hrun : ∀ {mustMove : Bool} {s t : Spot}, s.Inside length →
      run text r.node s (accept s.place mustMove) = some t → t.Inside length := by
    intro mustMove s t hs ht
    obtain ⟨u, hu, haccept⟩ := (kept_inside length).run text r.node.goes_anywhere hs ht
    rw [accept] at haccept
    split_ifs at haccept
    cases haccept
    exact hu
  induction rest generalizing mustMove s with
  | nil =>
    obtain ⟨t, ht, rfl⟩ := Option.map_eq_some_iff.1 h
    exact hrun hs ht
  | cons c rest ih =>
    rw [scan] at h
    split at h
    · next t ht =>
      cases h
      exact hrun hs ht
    · exact ih rfl ((kept_inside length).move hrest trivial hs) h

end Regex

/-- A match in a text: it ends inside of it and its captures are parts of it. -/
structure Match.Of (text : List Char) (m : Match) : Prop where
  stop_le : m.stop ≤ text.length
  isPart : m.text <:+: text

theorem Match.Of.infix_of_group? {text : List Char} {m : Match} {index : Nat} {s : String}
    (h : m.Of text) (hs : m.group? index = some s) : s.toList <:+: text := by
  obtain ⟨⟨_, start, stop⟩, -, rfl⟩ := Option.map_eq_some_iff.1 hs
  rw [String.toList_ofList]
  exact (Chars.infix_slice _ start stop).trans h.isPart

theorem Match.Of.infix_group {text : List Char} {m : Match} (h : m.Of text) (index : Nat) :
    (m.group index).toList <:+: text := by
  rw [Match.group]
  cases hs : m.group? index with
  | none => exact nil_infix
  | some s => exact h.infix_of_group? hs

namespace Regex

theorem of_toMatch {text : List Char} {hi : Nat} {found : Nat × Spot}
    (h : found.2.Inside (text.take hi).length) : (toMatch (text.take hi) found).Of text where
  stop_le := by
    rw [Spot.Inside, length_take] at h
    show found.2.place ≤ text.length
    omega
  isPart := Chars.infix_slice text 0 hi

theorem of_searchIn {r : Regex} {text : List Char} {lo hi : Nat} {m : Match}
    (h : r.searchIn text lo hi = some m) : m.Of text := by
  simp only [searchIn] at h
  split_ifs at h with hlo
  obtain ⟨found, hfound, rfl⟩ := Option.map_eq_some_iff.1 h
  exact of_toMatch (inside_scan rfl (inside_spotAt (Nat.not_lt.1 hlo)) hfound)

theorem of_mem_matchesLoop {r : Regex} {text : List Char} {hi fuel : Nat} {mustMove : Bool}
    {s : Spot} {m : Match} (hs : s.Inside (text.take hi).length)
    (h : m ∈ matchesLoop r (text.take hi) fuel mustMove s) : m.Of text := by
  induction fuel generalizing mustMove s with
  | zero => cases h
  | succ fuel ih =>
    rw [matchesLoop] at h
    split at h
    · cases h
    · next found hfound =>
      have hinside := inside_scan rfl hs hfound
      rcases mem_cons.1 h with rfl | h
      · exact of_toMatch hinside
      · exact ih ((kept_inside _).record [] hinside) h

theorem of_mem_matchesIn {r : Regex} {text : List Char} {lo hi : Nat} {m : Match}
    (h : m ∈ r.matchesIn text lo hi) : m.Of text := by
  simp only [matchesIn] at h
  split_ifs at h with hlo
  · cases h
  · exact of_mem_matchesLoop (inside_spotAt (Nat.not_lt.1 hlo)) h

end Regex

end BindingStubs.Pattern
