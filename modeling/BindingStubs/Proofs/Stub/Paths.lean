import BindingStubs.Proofs.OrderedSet
import BindingStubs.Stub.Store

set_option autoImplicit false

/-!
# Modules by path

What a module holds shows at every path that leads to it, and look-ups only bring in modules that
hold nothing.
-/

namespace BindingStubs

open List

namespace ModuleRecord

def own (m : ModuleRecord) : String × NameSet := (m.content, m.imports)

def addSupply (own : String × NameSet) (supply : String × List String) : String × NameSet :=
  (own.1 ++ supply.1, own.2.insertAll supply.2)

theorem own_update_leaf (m : ModuleRecord) (text : String) (imports : List String) :
    (m.update (leaf text imports)).own = addSupply m.own (text, imports) := by
  simp only [own, addSupply, Prod.mk.injEq]
  exact ⟨rfl, OrderedSet.union_ofList m.imports imports⟩

theorem find?_setEntry (entries : List (String × ModuleId)) (entry : String × ModuleId)
    (name : String) :
    ((setEntry entries entry).find? fun e => e.1 == name).map Prod.snd =
      if entry.1 = name then some entry.2
      else (entries.find? fun e => e.1 == name).map Prod.snd := by
  simp only [setEntry, any_name, decide_eq_true_eq]
  split
  case isTrue h =>
    -- The entry is there, so each entry keeps its name and only its module may change.
    have hnames : ((fun e => e.1 == name) ∘
        fun e : String × ModuleId => if e.1 == entry.1 then entry else e) = fun e => e.1 == name := by
      funext e
      by_cases he : e.1 = entry.1 <;> simp [he]
    rw [find?_map, hnames]
    cases hfound : entries.find? fun e => e.1 == name with
    | none =>
      have hne : entry.1 ≠ name := by
        rintro rfl
        obtain ⟨e, hmem, he⟩ := mem_map.1 h
        exact find?_eq_none.1 hfound e hmem (beq_iff_eq.2 he)
      simp [hne]
    | some e =>
      have he : e.1 = name := by simpa using find?_some hfound
      by_cases hne : entry.1 = name
      · simp [he, hne]
      · simp [he, hne, Ne.symm hne]
  case isFalse h =>
    rw [find?_append, Option.map_or]
    by_cases hne : entry.1 = name
    · have hnone : entries.find? (fun e => e.1 == name) = none := by
        rw [find?_eq_none]
        intro e hmem he
        exact h (mem_map.2 ⟨e, hmem, (beq_iff_eq.1 he).trans hne.symm⟩)
      simp [hnone, hne]
    · simp [hne]

theorem child?_setEntry (m : ModuleRecord) (entry : String × ModuleId) (name : String) :
    ({ m with children := setEntry m.children entry } : ModuleRecord).child? name =
      if entry.1 = name then some entry.2 else m.child? name :=
  find?_setEntry m.children entry name

theorem mem_of_child? {m : ModuleRecord} {name : String} {c : ModuleId}
    (h : m.child? name = some c) : (name, c) ∈ m.children := by
  obtain ⟨entry, hfound, rfl⟩ := Option.map_eq_some_iff.1 h
  have hname : entry.1 = name := by simpa using find?_some hfound
  exact hname ▸ mem_of_find?_eq_some hfound

end ModuleRecord

namespace ModuleStore

open ModuleRecord

variable {s : ModuleStore} {a : ModuleId}

theorem child?_lt {name : String} {c : ModuleId} (h : (s.get a).child? name = some c) :
    c < s.size :=
  (s.fitsIn_get a).within (name, c) (mem_of_child? h)

theorem size_set (s : ModuleStore) (a : ModuleId) (m : ModuleRecord) (h : m.FitsIn s.size) :
    (s.set a m h).size = s.size :=
  length_set

theorem size_alter (s : ModuleStore) (a : ModuleId) (change : ModuleRecord → ModuleRecord)
    (h : ∀ m, (change m).children = m.children) : (s.alter a change h).size = s.size :=
  size_set s a _ _

theorem size_update (s : ModuleStore) (a : ModuleId) (other : ModuleRecord)
    (h : other.FitsIn s.size) : (s.update a other h).size = s.size :=
  size_set s a _ _

theorem get_set (h : a < s.size) (m : ModuleRecord) (hm : m.FitsIn s.size) (b : ModuleId) :
    (s.set a m hm).get b = if b = a then m else s.get b := by
  by_cases hb : b = a
  · subst hb
    simp [get, set, getElem?_set_self (show b < s.modules.length from h)]
  · simp [get, set, getElem?_set_ne (Ne.symm hb), hb]

theorem get_alter (h : a < s.size) (change : ModuleRecord → ModuleRecord)
    (hchange : ∀ m, (change m).children = m.children) (b : ModuleId) :
    (s.alter a change hchange).get b = if b = a then change (s.get a) else s.get b :=
  get_set h _ _ b

theorem get_of_size_le (h : s.size ≤ a) : s.get a = {} := by
  simp [get, getElem?_eq_none (show s.modules.length ≤ a from h)]

theorem size_addChild (s : ModuleStore) (a : ModuleId) (name : String) :
    (s.addChild a name).size = s.size + 1 := by
  simp [addChild, size, set, push]

theorem get_addChild (h : a < s.size) (name : String) (b : ModuleId) :
    (s.addChild a name).get b =
      if b = a then { s.get a with children := setEntry (s.get a).children (name, s.size) }
      else if b = s.size then { name } else s.get b := by
  have hpush : (s.push { name } rfl).get b = if b = s.size then { name } else s.get b := by
    rcases Nat.lt_trichotomy b s.modules.length with hb | rfl | hb
    · simp [get, push, size, Nat.ne_of_lt hb, getElem?_append_left hb]
    · simp [get, push, size]
    · simp [get, push, size, Nat.ne_of_gt hb, getElem?_eq_none (Nat.le_of_lt hb),
        getElem?_eq_none (show (s.modules ++ [({ name } : ModuleRecord)]).length ≤ b by simpa)]
  have hgrown : a < (s.push { name } rfl).size := by
    rw [size, push, length_append]
    exact Nat.lt_succ_of_lt h
  rw [addChild, get_set hgrown, hpush]

/-- The module that a path leads to, if all modules on the way are there. -/
def walk (s : ModuleStore) : ModuleId → List String → Option ModuleId
  | a, [] => some a
  | a, name :: path => ((s.get a).child? name).bind fun c => s.walk c path

/-- What the module at a path holds, which is nothing if it is not there. -/
def held (s : ModuleStore) (a : ModuleId) (path : List String) : String × NameSet :=
  (s.walk a path).elim ("", .empty) fun m => (s.get m).own

theorem held_cons (s : ModuleStore) (a : ModuleId) (name : String) (path : List String) :
    s.held a (name :: path) =
      ((s.get a).child? name).elim ("", .empty) fun c => s.held c path := by
  rw [held, walk]
  cases (s.get a).child? name <;> rfl

theorem walk_append (s : ModuleStore) (a : ModuleId) (p q : List String) :
    s.walk a (p ++ q) = (s.walk a p).bind fun c => s.walk c q := by
  induction p generalizing a with
  | nil => rfl
  | cons name p ih =>
    rw [cons_append, walk, walk, Option.bind_assoc]
    exact congrArg _ (funext ih)

theorem walk_concat (s : ModuleStore) (a : ModuleId) (path : List String) (name : String) :
    s.walk a (path ++ [name]) = (s.walk a path).bind fun c => (s.get c).child? name := by
  rw [walk_append]
  refine congrArg _ (funext fun c => ?_)
  rw [walk]
  cases (s.get c).child? name <;> rfl

theorem held_append {c : ModuleId} {p : List String} (h : s.walk a p = some c) (q : List String) :
    s.held a (p ++ q) = s.held c q := by
  rw [held, walk_append, h, held]
  rfl

theorem walk_lt (ha : a < s.size) {path : List String} {c : ModuleId}
    (h : s.walk a path = some c) : c < s.size := by
  rcases eq_nil_or_concat path with rfl | ⟨path, name, rfl⟩
  · exact Option.some.inj h ▸ ha
  · rw [concat_eq_append, walk_concat] at h
    obtain ⟨b, -, hb⟩ := Option.bind_eq_some_iff.1 h
    exact child?_lt hb

section
variable (h : a < s.size) {m : ModuleRecord} (hm : m.FitsIn s.size)
  (hchild : ∀ name, m.child? name = (s.get a).child? name)
include h hchild

theorem child?_set (b : ModuleId) (name : String) :
    ((s.set a m hm).get b).child? name = (s.get b).child? name := by
  rw [get_set h]
  split
  · next hb => rw [hb, hchild]
  · rfl

theorem walk_set (b : ModuleId) (path : List String) :
    (s.set a m hm).walk b path = s.walk b path := by
  induction path generalizing b with
  | nil => rfl
  | cons name path ih =>
    rw [walk, walk, child?_set h hm hchild]
    exact congrArg _ (funext ih)

/-- A change that keeps the submodules of a module is seen exactly on the paths to it. -/
theorem held_set (b : ModuleId) (path : List String) :
    (s.set a m hm).held b path = if s.walk b path = some a then m.own else s.held b path := by
  rw [held, walk_set h hm hchild, held]
  cases s.walk b path with
  | none => rfl
  | some c => by_cases hc : c = a <;> simp [hc, get_set h]

end

section
variable (h : a < s.size) (change : ModuleRecord → ModuleRecord)
  (hchange : ∀ m, (change m).children = m.children) (b : ModuleId) (path : List String)
include h

theorem child?_alter (name : String) :
    ((s.alter a change hchange).get b).child? name = (s.get b).child? name :=
  child?_set h _ (fun name => by rw [child?, hchange, child?]) b name

theorem walk_alter : (s.alter a change hchange).walk b path = s.walk b path :=
  walk_set h _ (fun name => by rw [child?, hchange, child?]) b path

theorem held_alter : (s.alter a change hchange).held b path =
    if s.walk b path = some a then (change (s.get a)).own else s.held b path :=
  held_set h _ (fun name => by rw [child?, hchange, child?]) b path

end

/-- All modules keep their places and what they hold; new ones hold nothing. -/
structure Extends (s t : ModuleStore) : Prop where
  child : ∀ {b name c}, (s.get b).child? name = some c → (t.get b).child? name = some c
  held : ∀ b path, t.held b path = s.held b path
  size : s.size ≤ t.size

theorem Extends.refl (s : ModuleStore) : Extends s s := ⟨id, fun _ _ => rfl, Nat.le_refl _⟩

theorem Extends.trans {t u : ModuleStore} (h : Extends s t) (h' : Extends t u) : Extends s u where
  child hchild := h'.child (h.child hchild)
  held b path := (h'.held b path).trans (h.held b path)
  size := Nat.le_trans h.size h'.size

theorem Extends.walk {t : ModuleStore} (h : Extends s t) {path : List String} {c : ModuleId}
    (hwalk : s.walk a path = some c) : t.walk a path = some c := by
  induction path generalizing a with
  | nil => exact hwalk
  | cons name path ih =>
    obtain ⟨b, hb, hrest⟩ := Option.bind_eq_some_iff.1 hwalk
    rw [ModuleStore.walk, h.child hb]
    exact ih hrest

theorem extends_addChild (h : a < s.size) {name : String} (hnone : (s.get a).child? name = none) :
    Extends s (s.addChild a name) where
  child {b other c} hchild := by
    have hb : b ≠ s.size := by
      rintro rfl
      rw [get_of_size_le (Nat.le_refl _)] at hchild
      cases hchild
    rw [get_addChild h, if_neg hb]
    split
    · next hba =>
      subst hba
      rw [child?_setEntry, if_neg, hchild]
      rintro rfl
      rw [hnone] at hchild
      cases hchild
    · exact hchild
  held b path := by
    have hblank : ∀ path, (s.addChild a name).held s.size path = ("", .empty) := by
      intro path
      cases path with
      | nil => simp [held, walk, get_addChild h, Nat.ne_of_gt h, own]
      | cons other path => simp [held_cons, get_addChild h, Nat.ne_of_gt h, child?]
    induction path generalizing b with
    | nil =>
      simp only [held, walk, Option.elim_some, get_addChild h]
      split
      · next hba => rw [hba]; rfl
      · split
        · next hb => rw [hb, get_of_size_le (Nat.le_refl _)]; rfl
        · rfl
    | cons other path ih =>
      rw [held_cons, held_cons, get_addChild h]
      split
      · next hba =>
        rw [hba, child?_setEntry]
        split
        · next hname => rw [← hname, hnone, Option.elim_some, hblank]; rfl
        · exact congrArg _ (funext ih)
      · split
        · next hb => rw [hb, get_of_size_le (Nat.le_refl _)]; rfl
        · exact congrArg _ (funext ih)
  size := by rw [size_addChild]; exact Nat.le_succ _

theorem extends_adopt {c : ModuleId} (h : c < s.size) : Extends s (s.adopt a c) where
  child hc := (child?_alter h _ _ _ _).trans hc
  held b path := by
    rw [adopt, held_alter h]
    split
    · next hwalk => rw [held, hwalk]; rfl
    · rfl
  size := Nat.le_of_eq (size_alter s c _ _).symm

theorem child_spec (h : a < s.size) (name : String) :
    Extends s (s.child a name).2 ∧
      ((s.child a name).2.get a).child? name = some (s.child a name).1 := by
  rw [child]
  cases hchild : (s.get a).child? name with
  | some c => exact ⟨.refl s, hchild⟩
  | none =>
    refine ⟨extends_addChild h hchild, ?_⟩
    simp [get_addChild h, child?_setEntry]

theorem locate_spec (path : List String) (h : a < s.size) :
    Extends s (locate path a s).2 ∧
      (locate path a s).2.walk a path = some (locate path a s).1 := by
  induction path generalizing a s with
  | nil => exact ⟨.refl s, rfl⟩
  | cons name path ih =>
    obtain ⟨hext, hchild⟩ := child_spec h name
    have hadopt := extends_adopt (a := a) (child?_lt hchild)
    obtain ⟨hmore, hwalk⟩ := ih (Nat.lt_of_lt_of_le (child?_lt hchild) hadopt.size)
    refine ⟨(hext.trans hadopt).trans hmore, ?_⟩
    rw [locate, ModuleStore.walk, hmore.child (hadopt.child hchild)]
    exact hwalk

theorem alterItem_eq (s : ModuleStore) (a : ModuleId) (key : String)
    (change : ModuleStore → ModuleId → ModuleStore) :
    s.alterItem a key change =
      if (keyPath key).2 then
        (.ok (), change (locate (keyPath key).1 a s).2 (locate (keyPath key).1 a s).1)
      else (.error .emptyModuleName, (locate (keyPath key).1 a s).2) := by
  rw [alterItem, item]
  generalize keyPath key = place
  obtain ⟨path, isComplete⟩ := place
  cases isComplete <;> rfl

end ModuleStore

end BindingStubs
