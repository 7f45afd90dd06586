import BindingStubs.Proofs.Pattern.Words

set_option autoImplicit false

/-! # Matches in both texts of a template -/

namespace BindingStubs.Pattern

open Template List

namespace Regex

theorem accept_false (start : Nat) : accept start false = some := by
  funext s
  rfl

section
variable {r : Regex} {text before after : List Char} {caught : List (Nat × Nat × Nat)}

theorem scan_nil (s : Spot) :
    scan r text false [] s = (run text r.node s some).map fun found => (s.place, found) := by
  rw [scan, accept_false]

theorem scan_cons (c : Char) (after : List Char) :
    scan r text false (c :: after) (.between before (c :: after) caught) =
      ((run text r.node (.between before (c :: after) caught) some).map fun found =>
        (before.length, found)).or
          (scan r text false after (.between (before ++ [c]) after caught)) := by
  rw [scan, accept_false, Spot.move_between]
  cases run text r.node (.between before (c :: after) caught) some <;> rfl

theorem scan_of_run {rest : List Char} {s found : Spot} (h : run text r.node s some = some found) :
    scan r text false rest s = some (s.place, found) := by
  cases rest with
  | nil => rw [scan_nil, h, Option.map_some]
  | cons c rest => rw [scan, accept_false, h]

theorem scan_append {word : List Char}
    (h : ∀ u v, u ++ v = word → v ≠ [] →
      run text r.node (.between (before ++ u) (v ++ after) caught) some = none) :
    scan r text false (word ++ after) (.between before (word ++ after) caught) =
      scan r text false after (.between (before ++ word) after caught) := by
  induction word generalizing before with
  | nil => rw [nil_append, append_nil]
  | cons c word ih =>
    have hhere := h [] (c :: word) rfl (cons_ne_nil _ _)
    rw [append_nil, cons_append] at hhere
    rw [cons_append, scan_cons, hhere, Option.map_none, Option.none_or, ih,
      append_assoc, singleton_append]
    intro u v huv hv
    rw [append_assoc, singleton_append]
    exact h (c :: u) v (congrArg (c :: ·) huv) hv

def Moves (r : Regex) (text : List Char) : Prop :=
  ∀ ⦃s t : Spot⦄, run text r.node s some = some t → s.place < t.place

theorem moves_of_last (items : List Item) (item : Item) {cs : CharSet}
    (hnode : r.node = sequence (items ++ [item])) (hitem : item.node = .set cs) : Moves r text := by
  intro s t h
  have hkept : Kept (fun _ => True) fun u => s.place ≤ u.place :=
    ⟨fun _ _ hu => Nat.le_succ_of_le hu, fun _ hu => hu⟩
  rw [hnode, run_sequence_append] at h
  obtain ⟨u, hu, hlast⟩ := hkept.run text (Node.goes_anywhere _) (Nat.le_refl _) h
  rw [show sequence [item] = .set cs from hitem, run] at hlast
  split at hlast
  · cases hlast
  · split_ifs at hlast
    cases hlast
    exact Nat.lt_succ_of_le hu

theorem Moves.of_scan (hr : Moves r text) {rest : List Char} {s : Spot} {found : Nat × Spot}
    (h : scan r text false rest s = some found) : s.place ≤ found.1 ∧ found.1 < found.2.place := by
  induction rest generalizing s with
  | nil =>
    rw [scan_nil] at h
    obtain ⟨t, ht, rfl⟩ := Option.map_eq_some_iff.1 h
    exact ⟨Nat.le_refl _, hr ht⟩
  | cons c rest ih =>
    rw [scan, accept_false] at h
    split at h
    · next t ht =>
      cases h
      exact ⟨Nat.le_refl _, hr ht⟩
    · have hrest := ih h
      exact ⟨Nat.le_of_succ_le hrest.1, hrest.2⟩

theorem matchesLoop_of_none {s : Spot} (h : scan r text false s.rest s = none) (fuel : Nat) :
    matchesLoop r text fuel false s = [] := by
  cases fuel with
  | zero => rfl
  | succ fuel => rw [matchesLoop, h]

theorem Moves.matchesLoop (hr : Moves r text) {s : Spot} {found : Nat × Spot}
    (h : scan r text false s.rest s = some found) (fuel : Nat) :
    Regex.matchesLoop r text (fuel + 1) false s =
      toMatch text found :: Regex.matchesLoop r text fuel false { found.2 with caught := [] } := by
  have hplace : (found.1 == found.2.place) = false :=
    beq_eq_false_iff_ne.2 (Nat.ne_of_lt (hr.of_scan h).2)
  rw [Regex.matchesLoop, h]
  dsimp only
  rw [hplace]

end

end Regex

/-- A pattern that does not match from within a name if it does not match from its start. -/
def Skips (name : List Char) (t : Template) (text : List Char) (node : Node) : Prop :=
  ∀ ⦃pre post u v⦄, pre ++ none :: post = t →
    run text node (.between (fill name pre) (name ++ fill name post) []) some = none →
    u ++ v = name → u ≠ [] → v ≠ [] →
    run text node (.between (fill name pre ++ u) (v ++ fill name post) []) some = none

section
variable {x y : List Char} {t : Template} {E : Nat → Nat → Prop} {text text' : List Char}
  {r r' : Regex}

theorem Skips.scan {name : List Char} (h : Skips name t text r.node) {pre post : Template}
    (hpre : pre ++ none :: post = t) :
    Regex.scan r text false (name ++ fill name post)
        (.between (fill name pre) (name ++ fill name post) []) =
      ((run text r.node (.between (fill name pre) (name ++ fill name post) []) some).map fun found =>
        ((fill name pre).length, found)).or
          (Regex.scan r text false (fill name post)
            (.between (fill name pre ++ name) (fill name post) [])) := by
  cases hrun : run text r.node (.between (fill name pre) (name ++ fill name post) []) some with
  | some found => exact Regex.scan_of_run hrun
  | none =>
    refine Regex.scan_append ?_
    intro u v huv hv
    by_cases hu : u = []
    · subst hu
      rw [nil_append] at huv
      rw [append_nil, huv]
      exact hrun
    · exact h hpre hrun huv hu hv

theorem rel_map {α β : Type} {R : α → α → Prop} {Q : β → β → Prop} {a a' : Option α}
    {f f' : α → β} (h : Option.Rel R a a') (hf : ∀ b b', R b b' → Q (f b) (f' b')) :
    Option.Rel Q (a.map f) (a'.map f') := by
  cases h with
  | some h => exact .some (hf _ _ h)
  | none => exact .none

theorem rel_none_left {α : Type} {R : α → α → Prop} {a : Option α} (h : Option.Rel R none a) :
    a = none := by
  cases h
  rfl

theorem rel_some_left {α : Type} {R : α → α → Prop} {a : α} {b : Option α}
    (h : Option.Rel R (some a) b) : ∃ b', b = some b' ∧ R a b' := by
  cases h with
  | some h => exact ⟨_, rfl, h⟩

theorem rel_findSome? {α β : Type} {R : α → α → Prop} {Q : β → β → Prop} {f f' : α → Option β}
    {l l' : List α} (h : List.Forall₂ R l l') (hf : ∀ a b, R a b → Option.Rel Q (f a) (f' b)) :
    Option.Rel Q (l.findSome? f) (l'.findSome? f') := by
  have hor : ∀ (f : α → Option β) (a : α) (l : List α),
      (a :: l).findSome? f = (f a).or (l.findSome? f) := by
    intro f a l
    rw [findSome?_cons]
    cases f a <;> rfl
  induction h with
  | nil => exact .none
  | cons hab _ ih =>
    rw [hor, hor]
    exact rel_or (hf _ _ hab) ih

theorem Setting.rel_scan (hT : Setting x y t E)
    (hnode : ∀ m, Alike x y t E m (run text r.node · some) (run text' r'.node · some))
    (hskips : Skips x t text r.node) (hskips' : Skips y t text' r'.node) {pre post : Template}
    (hpre : pre ++ post = t) :
    Option.Rel (fun a b => E a.1 b.1 ∧ ∃ post, Aligned x y t E post a.2 b.2)
      (Regex.scan r text false (fill x post) (.between (fill x pre) (fill x post) []))
      (Regex.scan r' text' false (fill y post) (.between (fill y pre) (fill y post) [])) := by
  have hfound : ∀ {pre post : Template}, pre ++ post = t → Option.Rel
      (fun a b => E a.1 b.1 ∧ ∃ post, Aligned x y t E post a.2 b.2)
      ((run text r.node (.between (fill x pre) (fill x post) []) some).map fun found =>
        ((fill x pre).length, found))
      ((run text' r'.node (.between (fill y pre) (fill y post) []) some).map fun found =>
        ((fill y pre).length, found)) := by
    intro pre post hpre
    refine rel_map (hnode _ (Nat.le_refl _) (aligned_between (x := x) (y := y) hpre .nil)) ?_
    exact fun _ _ hfound => ⟨hT.corresponds hpre, hfound⟩
  -- at a hole, both scans try the start of the name and then go on after its end
  induction post generalizing pre with
  | nil =>
    rw [fill_nil, fill_nil, Regex.scan_nil, Regex.scan_nil]
    exact hfound hpre
  | cons part post ih =>
    have hhere := hfound hpre
    cases part with
    | none =>
      have hnext := @ih (pre ++ [none]) (by simpa using hpre)
      rw [fill_append, fill_append, fill_none_cons, fill_none_cons, fill_nil, fill_nil,
        append_nil, append_nil] at hnext
      rw [fill_none_cons, fill_none_cons] at hhere ⊢
      rw [hskips.scan hpre, hskips'.scan hpre]
      exact rel_or hhere hnext
    | some c =>
      have hnext := @ih (pre ++ [some c]) (by simpa using hpre)
      rw [fill_append, fill_append, fill_some_cons, fill_some_cons, fill_nil, fill_nil] at hnext
      rw [fill_some_cons, fill_some_cons] at hhere ⊢
      rw [Regex.scan_cons, Regex.scan_cons]
      exact rel_or hhere hnext

structure SameMatch (x y : List Char) (t : Template) (E : Nat → Nat → Prop) (m m' : Match) :
    Prop where
  text : m.text = fill x t
  text' : m'.text = fill y t
  stop : E m.stop m'.stop
  caught : SameCaptures E m.caught m'.caught

theorem Setting.forall₂_matchesLoop (hT : Setting x y t E)
    (hnode : ∀ m, Alike x y t E m (run (fill x t) r.node · some) (run (fill y t) r'.node · some))
    (hskips : Skips x t (fill x t) r.node) (hskips' : Skips y t (fill y t) r'.node)
    (hmoves : r.Moves (fill x t)) (hmoves' : r'.Moves (fill y t)) {pre post : Template}
    (hpre : pre ++ post = t) {fuel fuel' : Nat} (hfuel : post.length < fuel)
    (hfuel' : post.length < fuel') :
    List.Forall₂ (SameMatch x y t E)
      (Regex.matchesLoop r (fill x t) fuel false (.between (fill x pre) (fill x post) []))
      (Regex.matchesLoop r' (fill y t) fuel' false (.between (fill y pre) (fill y post) [])) := by
  induction fuel generalizing fuel' pre post with
  | zero => exact absurd hfuel (Nat.not_lt_zero _)
  | succ fuel ih =>
    obtain ⟨fuel', rfl⟩ := Nat.exists_eq_succ_of_ne_zero (Nat.ne_of_gt (Nat.zero_lt_of_lt hfuel'))
    have hscan := hT.rel_scan hnode hskips hskips' hpre
    cases hfound : Regex.scan r (fill x t) false (fill x post)
        (.between (fill x pre) (fill x post) []) with
    | none =>
      rw [hfound] at hscan
      rw [Regex.matchesLoop_of_none hfound, Regex.matchesLoop_of_none (rel_none_left hscan)]
      exact .nil
    | some found =>
      rw [hfound] at hscan
      obtain ⟨found', hfound', -, rest, before, caught, caught', hbefore, hspot, hspot', hcaught⟩ :=
        rel_some_left hscan
      -- a match takes a part of the template, so less is left for the matches after it
      have hlt : rest.length < post.length := by
        refine (length_fill_lt_iff hT.left hpre hbefore).1 ?_
        have hplace := hmoves.of_scan hfound
        rw [hspot] at hplace
        exact Nat.lt_of_le_of_lt hplace.1 hplace.2
      rw [hmoves.matchesLoop hfound, Nat.succ_eq_add_one, hmoves'.matchesLoop hfound', hspot, hspot']
      refine .cons ⟨rfl, rfl, ?_, ?_⟩ (ih hbefore (by omega) (by omega))
      · rw [Regex.toMatch, Regex.toMatch, hspot, hspot']
        exact hT.corresponds hbefore
      · rw [Regex.toMatch, Regex.toMatch, hspot, hspot']
        exact hcaught

/-- Two numbers of characters that are those of the same part of the template. -/
def Corresponds (x y : List Char) (t : Template) (a b : Nat) : Prop :=
  ∃ pre post, pre ++ post = t ∧ a = (fill x pre).length ∧ b = (fill y pre).length

theorem Fits.setting (h : Fits x y t) : Setting x y t (Corresponds x y t) where
  toFits := h
  corresponds := fun pre post hpre => ⟨pre, post, hpre, rfl, rfl⟩

theorem Fits.left_setting (h : Fits x y t) : Setting x x t fun _ _ => True where
  toFits := ⟨h.left, h.left, h.apart, h.notSpelled, h.notSpelled⟩
  corresponds := fun _ _ _ => trivial

theorem Fits.right_setting (h : Fits x y t) : Setting y y t fun _ _ => True where
  toFits := ⟨h.right, h.right, h.apart, h.notSpelled', h.notSpelled'⟩
  corresponds := fun _ _ _ => trivial

structure FindsAlike (x y : List Char) (t : Template) (r r' : Regex) : Prop where
  alike : ∀ m, Alike x y t (Corresponds x y t) m (run (fill x t) r.node · some)
    (run (fill y t) r'.node · some)
  skips : Skips x t (fill x t) r.node
  skips' : Skips y t (fill y t) r'.node
  moves : r.Moves (fill x t)
  moves' : r'.Moves (fill y t)

theorem FindsAlike.forall₂_matchesIn (h : FindsAlike x y t r r') (hfits : Fits x y t)
    (rest : Template) :
    List.Forall₂ (SameMatch x y t (Corresponds x y t))
      (r.matchesIn (fill x (t ++ rest)) 0 (fill x t).length)
      (r'.matchesIn (fill y (t ++ rest)) 0 (fill y t).length) := by
  have hfuel : ∀ {name : List Char}, IsWordName name → t.length < 2 * (fill name t).length + 2 := by
    intro name hname
    have hlength := length_le_length_fill hname t
    omega
  rw [Regex.matchesIn, Regex.matchesIn, fill_append, fill_append, take_left, take_left]
  exact hfits.setting.forall₂_matchesLoop h.alike h.skips h.skips' h.moves h.moves'
    (nil_append t) (hfuel hfits.left) (hfuel hfits.right)

theorem Corresponds.le_length {a b : Nat} (h : Corresponds x y t a b) :
    a ≤ (fill x t).length ∧ b ≤ (fill y t).length := by
  obtain ⟨pre, post, rfl, rfl, rfl⟩ := h
  rw [fill_append, fill_append, length_append, length_append]
  exact ⟨Nat.le_add_right _ _, Nat.le_add_right _ _⟩

theorem Corresponds.slice {a a' b b' : Nat} (ha : Corresponds x y t a a')
    (hb : Corresponds x y t b b') : ∃ part, part <:+: t ∧
      ((fill x t).take b).drop a = fill x part ∧ ((fill y t).take b').drop a' = fill y part := by
  obtain ⟨pre, post, hpre, rfl, rfl⟩ := ha
  obtain ⟨before, after, hbefore, rfl, rfl⟩ := hb
  have htake : ∀ name, (fill name t).take (fill name before).length = fill name before := by
    intro name
    rw [← hbefore, fill_append, take_left]
  rw [htake, htake]
  rcases append_eq_append_iff.1 (hpre.trans hbefore.symm) with ⟨more, rfl, -⟩ | ⟨more, rfl, -⟩
  · refine ⟨more, ⟨pre, after, hbefore⟩, ?_, ?_⟩ <;> rw [fill_append, drop_left]
  · refine ⟨[], nil_infix, ?_, ?_⟩ <;>
      exact drop_eq_nil_of_le (by rw [fill_append, length_append]; omega)

theorem SameCaptures.find? {caught caught' : List (Nat × Nat × Nat)}
    (h : SameCaptures E caught caught') (index : Nat) :
    Option.Rel (fun a b => E a.2.1 b.2.1 ∧ E a.2.2 b.2.2)
      (caught.find? fun entry => entry.1 == index) (caught'.find? fun entry => entry.1 == index) := by
  induction h with
  | nil => exact .none
  | cons hentry hrest ih =>
    rw [find?_cons, find?_cons, hentry.1]
    split
    · exact .some hentry.2
    · exact ih

theorem SameMatch.group {m m' : Match} (h : SameMatch x y t (Corresponds x y t) m m')
    (index : Nat) : ∃ part, part <:+: t ∧ m.group index = .ofList (fill x part) ∧
      m'.group index = .ofList (fill y part) := by
  have hfound := h.caught.find? index
  rw [Match.group, Match.group, Match.group?, Match.group?, h.text, h.text']
  revert hfound
  generalize m.caught.find? _ = entry
  generalize m'.caught.find? _ = entry'
  rintro (hbounds | _)
  · obtain ⟨part, hpart, hx, hy⟩ := hbounds.1.slice hbounds.2
    exact ⟨part, hpart, congrArg String.ofList hx, congrArg String.ofList hy⟩
  · exact ⟨[], nil_infix, rfl, rfl⟩

end

end BindingStubs.Pattern
