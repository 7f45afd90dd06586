import BindingStubs.Proofs.Stub.Paths

set_option autoImplicit false

/-!
# Operations on a store

A merge puts submodules in the place of those of the same name and shares them. An addition to an
item doubles what it holds.
-/

namespace BindingStubs

open List

theorem ModuleRecord.child?_update (m : ModuleRecord) {other : ModuleRecord}
    (hnames : (other.children.map Prod.fst).Nodup) (name : String) :
    (m.update other).child? name = (other.child? name).or (m.child? name) := by
  have hfind : ∀ {more entries : List (String × ModuleId)}, (more.map Prod.fst).Nodup →
      ((more.foldl setEntry entries).find? fun e => e.1 == name).map Prod.snd =
      ((more.find? fun e => e.1 == name).map Prod.snd).or
        ((entries.find? fun e => e.1 == name).map Prod.snd) := by
    intro more
    induction more with
    | nil => exact fun _ => rfl
    | cons entry more ih =>
      intro entries hnames
      rw [map_cons, nodup_cons] at hnames
      rw [foldl_cons, ih hnames.2, find?_setEntry, find?_cons]
      by_cases hname : entry.1 = name
      · have hnone : more.find? (fun e => e.1 == name) = none := by
          rw [find?_eq_none]
          intro later hlater heq
          exact hnames.1 (mem_map.2 ⟨later, hlater, (beq_iff_eq.1 heq).trans hname.symm⟩)
        simp [hname, hnone]
      · simp [hname, beq_eq_false_iff_ne.2 hname]
  exact hfind hnames

namespace ModuleStore

open ModuleRecord

/-- No path but the given one leads to a module. -/
def Sole (s : ModuleStore) (root : ModuleId) (p : List String) (t : ModuleId) : Prop :=
  ∀ q, s.walk root q = some t → q = p

/-- The submodules of a module, and what is below them, do not include a given module. -/
def Spares (s : ModuleStore) (other : ModuleRecord) (t : ModuleId) : Prop :=
  ∀ name c, other.child? name = some c → ∀ path, s.walk c path ≠ some t

/-- What a module holds at a path below it. -/
def heldBelow (s : ModuleStore) (other : ModuleRecord) : List String → String
  | [] => other.content
  | name :: path => (other.child? name).elim "" fun c => (s.held c path).1

/-- What a module at a given place brings for the module at a path. -/
def broughtTo (s : ModuleStore) (p : List String) (other : ModuleRecord) (q : List String) : String :=
  if p <+: q then s.heldBelow other (q.drop p.length) else ""

theorem broughtTo_append (s : ModuleStore) (p : List String) (other : ModuleRecord)
    (rest : List String) : s.broughtTo p other (p ++ rest) = s.heldBelow other rest := by
  rw [broughtTo, if_pos (prefix_append _ _), drop_left]

theorem heldBelow_get (s : ModuleStore) (m : ModuleId) (path : List String) :
    s.heldBelow (s.get m) path = (s.held m path).1 := by
  cases path with
  | nil => rfl
  | cons name path =>
    rw [heldBelow, held_cons]
    cases (s.get m).child? name <;> rfl

section
variable {s : ModuleStore} {root t : ModuleId} {other : ModuleRecord} {p : List String}
  (ht : t < s.size) (hother : other.FitsIn s.size)
include ht

theorem get_update (b : ModuleId) :
    (s.update t other hother).get b = if b = t then (s.get t).update other else s.get b :=
  get_set ht _ _ b

theorem walk_update {a : ModuleId} {q : List String}
    (h : ∀ front, front <+: q → front ≠ q → s.walk a front ≠ some t) :
    (s.update t other hother).walk a q = s.walk a q := by
  induction q generalizing a with
  | nil => rfl
  | cons name q ih =>
    have ha : a ≠ t := fun hat => h [] nil_prefix (by simp) (hat ▸ rfl)
    rw [walk, walk, get_update ht, if_neg ha]
    cases hchild : (s.get a).child? name with
    | none => rfl
    | some c =>
      refine ih fun front hfront hne hwalk => ?_
      refine h (name :: front) (prefix_cons_inj name |>.2 hfront) (by simpa using hne) ?_
      rw [walk, hchild]
      exact hwalk

theorem held_update_of_avoids {a : ModuleId} {q : List String}
    (h : ∀ front, front <+: q → s.walk a front ≠ some t) :
    (s.update t other hother).held a q = s.held a q := by
  rw [held, walk_update ht hother fun front hfront _ => h front hfront, held]
  cases hwalk : s.walk a q with
  | none => rfl
  | some b =>
    have hb : b ≠ t := fun hbt => h q prefix_rfl (hbt ▸ hwalk)
    simp only [Option.elim_some, get_update ht, if_neg hb]

variable (hp : s.walk root p = some t)
include hp

omit ht in
theorem Sole.avoids_of_child (hsole : s.Sole root p t) {name : String} {c : ModuleId}
    (hc : (s.get t).child? name = some c) (path : List String) : s.walk c path ≠ some t := by
  intro hwalk
  have hround : s.walk root (p ++ name :: path) = some t := by
    rw [walk_append, hp, Option.bind_some, walk, hc]
    exact hwalk
  simpa using hsole _ hround

theorem held_update_append (hsole : s.Sole root p t) (rest : List String) :
    (s.update t other hother).held root (p ++ rest) = (s.update t other hother).held t rest := by
  refine held_append ?_ rest
  rw [walk_update ht hother fun front _ hne hfront => hne (hsole front hfront), hp]

theorem held_update_below (hsole : s.Sole root p t) (hspares : s.Spares other t) (name : String)
    (path : List String) :
    (s.update t other hother).held root (p ++ name :: path) =
      (other.child? name).elim (s.held root (p ++ name :: path)) fun c => s.held c path := by
  rw [held_update_append ht hother hp hsole, held_append hp, held_cons, held_cons, get_update ht,
    if_pos rfl, child?_update _ hother.distinct]
  cases hchild : other.child? name with
  | some c => exact held_update_of_avoids ht hother fun front _ => hspares name c hchild front
  | none =>
    cases hc : (s.get t).child? name with
    | none => rfl
    | some c =>
      exact held_update_of_avoids ht hother fun front _ => hsole.avoids_of_child hp hc front

/-- A merge with submodules appends once exactly if there was no text in their places. -/
theorem update_appends_iff_of_sole (hsole : s.Sole root p t) (hspares : s.Spares other t) :
    (∀ q, ((s.update t other hother).held root q).1 = (s.held root q).1 ++ s.broughtTo p other q) ↔
      ∀ name path, (other.child? name).isSome → (s.held root (p ++ name :: path)).1 = "" := by
  have hbelow := held_update_below ht hother hp hsole hspares
  constructor
  · intro h name path hname
    obtain ⟨c, hc⟩ := Option.isSome_iff_exists.1 hname
    have happended := h (p ++ name :: path)
    rw [hbelow, broughtTo_append, heldBelow, hc] at happended
    exact String.append_eq_right_iff.1 happended.symm
  · intro h q
    by_cases hq : p <+: q
    · obtain ⟨rest, rfl⟩ := hq
      rw [broughtTo_append]
      cases rest with
      | nil =>
        rw [held_update_append ht hother hp hsole, held_append hp, held, walk, Option.elim_some,
          get_update ht, if_pos rfl]
        rfl
      | cons name path =>
        have htext := h name path
        rw [hbelow, heldBelow]
        cases hc : other.child? name with
        | none => exact String.append_empty.symm
        | some c =>
          rw [htext (by rw [hc]; rfl), String.empty_append]
          rfl
    · rw [broughtTo, if_neg hq, String.append_empty, held_update_of_avoids ht hother]
      exact fun front hfront hwalk => hq (hsole front hwalk ▸ hfront)

/-- The text of a module without submodules is appended once exactly if one path leads to the module
that it is added to. -/
theorem update_appends_iff_of_leaf (hleaf : other.children = []) :
    (∀ q, ((s.update t other hother).held root q).1 = (s.held root q).1 ++ s.broughtTo p other q) ↔
      other.content = "" ∨ s.Sole root p t := by
  have hsupply : ∀ rest, s.heldBelow other rest = if rest = [] then other.content else "" := by
    intro rest
    cases rest <;> simp [heldBelow, child?, hleaf]
  have hheld : ∀ q, ((s.update t other hother).held root q).1 =
      if s.walk root q = some t then (s.held root q).1 ++ other.content
      else (s.held root q).1 := by
    intro q
    rw [update, held_set ht]
    · split
      · next hwalk => rw [held, hwalk]; rfl
      · rfl
    · intro name
      rw [ModuleRecord.update, hleaf]
      rfl
  constructor
  · intro h
    refine or_iff_not_imp_left.2 fun htext q hq => ?_
    have hsame := h q
    rw [hheld, if_pos hq, String.append_right_inj] at hsame
    by_cases hbelow : p <+: q
    · obtain ⟨rest, rfl⟩ := hbelow
      rw [broughtTo_append, hsupply] at hsame
      split at hsame
      · next hrest => rw [hrest, append_nil]
      · exact absurd hsame htext
    · rw [broughtTo, if_neg hbelow] at hsame
      exact absurd hsame htext
  · intro h q
    rw [hheld]
    by_cases hbelow : p <+: q
    · obtain ⟨rest, rfl⟩ := hbelow
      rw [broughtTo_append, hsupply]
      by_cases hrest : rest = []
      · rw [hrest, append_nil, if_pos hp, if_pos rfl]
      · rw [if_neg hrest, String.append_empty]
        rcases h with htext | hsole
        · simp [htext]
        · exact if_neg fun hwalk => hrest (by simpa using hsole _ hwalk)
    · rw [broughtTo, if_neg hbelow, String.append_empty]
      rcases h with htext | hsole
      · simp [htext]
      · exact if_neg fun hwalk => hbelow (hsole q hwalk ▸ prefix_rfl)

theorem update_appends_iff (hclear : other.children ≠ [] → s.Sole root p t ∧ s.Spares other t) :
    (∀ q, ((s.update t other hother).held root q).1 = (s.held root q).1 ++ s.broughtTo p other q) ↔
    (other.content = "" ∨ s.Sole root p t) ∧
      ∀ name path, (other.child? name).isSome → (s.held root (p ++ name :: path)).1 = "" := by
  by_cases hleaf : other.children = []
  · rw [update_appends_iff_of_leaf ht hother hp hleaf]
    simp [child?, hleaf]
  · obtain ⟨hsole, hspares⟩ := hclear hleaf
    rw [update_appends_iff_of_sole ht hother hp hsole hspares]
    exact (and_iff_right (.inr hsole)).symm

end

inductive Operation where
  | add (key text : String)
  /-- A text is added to an item: its module is looked up, gets the text, and is set again. -/
  | addItem (key text : String)
  | set (key : String) (m : ModuleId)
  | update (m : ModuleId)

namespace Operation

def effect (root : ModuleId) : Operation → ModuleStore → ModuleId → ModuleStore
  | add _ text, s, t => s.addText t text
  | addItem key text, s, t => ((s.addText t text).setItem root key t).2
  | set _ m, s, t | update m, s, t => s.merge t m

def apply (root : ModuleId) (s : ModuleStore) : Operation → Except Fault Unit × ModuleStore
  | add key text => s.alterItem root key ((add key text).effect root)
  | addItem key text => s.alterItem root key ((addItem key text).effect root)
  | set key m => s.setItem root key m
  | update m => (.ok (), s.merge root m)

/-- The path of the module that an operation is for, and whether its key is accepted. -/
def place : Operation → List String × Bool
  | add key _ | addItem key _ | set key _ => keyPath key
  | update _ => ([], true)

def target (root : ModuleId) (s : ModuleStore) (op : Operation) : ModuleId × ModuleStore :=
  locate op.place.1 root s

def operand (s : ModuleStore) : Operation → ModuleRecord
  | add _ text | addItem _ text => { content := lineOf text }
  | set _ m | update m => s.get m

/-- The text that an operation supplies for the module at a path. A key that is refused supplies
nothing. -/
def supplied (s : ModuleStore) (op : Operation) (q : List String) : String :=
  if op.place.2 then s.broughtTo op.place.1 (op.operand s) q else ""

/-- Every path leads to what was there before, followed once by what the operation supplies. -/
def AppendsOnce (root : ModuleId) (s : ModuleStore) (op : Operation) : Prop :=
  ∀ q, ((op.apply root s).2.held root q).1 = (s.held root q).1 ++ op.supplied s q

/-- A text goes to a module that one path leads to and is not added to an item, and submodules
come to places without text. -/
def Harmless (root : ModuleId) (s : ModuleStore) (op : Operation) : Prop :=
  op.place.2 = true →
    (∀ key text, op ≠ addItem key text) ∧
    ((op.operand s).content = "" ∨ (op.target root s).2.Sole root op.place.1 (op.target root s).1) ∧
    ∀ name path, ((op.operand (op.target root s).2).child? name).isSome →
      (s.held root (op.place.1 ++ name :: path)).1 = ""

/-- A module with submodules is merged into one that a single path leads to and that is not below
it. -/
def Clear (root : ModuleId) (s : ModuleStore) (op : Operation) : Prop :=
  op.place.2 = true → (op.operand (op.target root s).2).children ≠ [] →
    (op.target root s).2.Sole root op.place.1 (op.target root s).1 ∧
      (op.target root s).2.Spares (op.operand (op.target root s).2) (op.target root s).1

end Operation

open Operation

theorem lineOf_ne_empty (text : String) : lineOf text ≠ "" := by
  rw [lineOf]
  split
  · next h =>
    rintro rfl
    exact absurd h (by decide)
  · simp

theorem apply_eq (root : ModuleId) (s : ModuleStore) (op : Operation) :
    op.apply root s =
      if op.place.2 then (.ok (), op.effect root (op.target root s).2 (op.target root s).1)
      else (.error .emptyModuleName, (op.target root s).2) := by
  cases op with
  | add key text => exact alterItem_eq s root key _
  | addItem key text => exact alterItem_eq s root key _
  | set key m => exact alterItem_eq s root key _
  | update m => rfl

section
variable {root : ModuleId} {s : ModuleStore} {op : Operation}

theorem Extends.heldBelow_operand {t : ModuleStore} (h : Extends s t) (op : Operation)
    (path : List String) : t.heldBelow (op.operand t) path = s.heldBelow (op.operand s) path := by
  cases op with
  | add key text | addItem key text => cases path <;> rfl
  | set key m | update m => exact (heldBelow_get t m path).trans ((congrArg Prod.fst
      (h.held m path)).trans (heldBelow_get s m path).symm)

theorem fitsIn_operand (s : ModuleStore) (op : Operation) : (op.operand s).FitsIn s.size := by
  cases op with
  | add key text | addItem key text => exact fitsIn_of_children_eq_nil rfl
  | set key m | update m => exact s.fitsIn_get m

theorem effect_eq (hop : ∀ key text, op ≠ addItem key text) (t : ModuleId) :
    op.effect root s t = s.update t (op.operand s) (fitsIn_operand s op) := by
  cases op with
  | addItem key text => exact absurd rfl (hop key text)
  | add key text | set key m | update m => rfl

theorem held_addText {t : ModuleId} (ht : t < s.size) {p : List String}
    (hp : s.walk root p = some t) (text : String) :
    ((s.addText t text).held root p).1 = (s.held root p).1 ++ lineOf text := by
  refine (congrArg Prod.fst (held_alter ht _ _ root p)).trans ?_
  rw [if_pos hp, held, hp]
  rfl

theorem held_merge_self {t : ModuleId} (ht : t < s.size) {p : List String}
    (hp : s.walk root p = some t) :
    ((s.merge t t).held root p).1 = (s.held root p).1 ++ (s.held root p).1 := by
  have hchild : ∀ name, ((s.get t).update (s.get t)).child? name = (s.get t).child? name := by
    intro name
    rw [child?_update _ (s.fitsIn_get t).distinct, Option.or_self]
  rw [merge, update, held_set ht _ hchild, if_pos hp, held, hp]
  rfl

theorem held_apply_addItem (hroot : root < s.size) {key : String} (h : (keyPath key).2 = true)
    (text : String) :
    (((addItem key text).apply root s).2.held root (keyPath key).1).1 =
      (s.held root (keyPath key).1).1 ++ lineOf text ++
        ((s.held root (keyPath key).1).1 ++ lineOf text) := by
  obtain ⟨hext, hwalk⟩ := locate_spec (keyPath key).1 hroot
  rw [apply_eq, place, if_pos h, target, effect, setItem, alterItem_eq, if_pos h]
  dsimp only [place]
  generalize locate (keyPath key).1 root s = found at hext hwalk ⊢
  obtain ⟨t, s₁⟩ := found
  have hroot₁ : root < s₁.size := Nat.lt_of_lt_of_le hroot hext.size
  have ht : t < s₁.size := walk_lt hroot₁ hwalk
  have hadded : root < (s₁.addText t text).size := (size_alter s₁ t _ _).symm ▸ hroot₁
  -- The key leads to the same module once more, which now holds the text.
  obtain ⟨hext', hwalk'⟩ := locate_spec (keyPath key).1 hadded
  have hthere := hext'.walk ((walk_alter ht _ _ root _).trans hwalk)
  generalize locate (keyPath key).1 root (s₁.addText t text) = found at hext' hwalk' hthere ⊢
  obtain ⟨t', s₂⟩ := found
  obtain rfl : t' = t := Option.some.inj (hwalk'.symm.trans hthere)
  have ht' : t' < s₂.size := walk_lt (Nat.lt_of_lt_of_le hadded hext'.size) hwalk'
  rw [held_merge_self ht' hwalk', hext'.held, held_addText ht hwalk, hext.held]

theorem not_appendsOnce_addItem (hroot : root < s.size) {key : String}
    (h : (keyPath key).2 = true) (text : String) : ¬ (addItem key text).AppendsOnce root s := by
  intro honce
  have hdoubled := held_apply_addItem hroot h text
  have hsupplied : (addItem key text).supplied s (keyPath key).1 = lineOf text := by
    have hself := broughtTo_append s (keyPath key).1 { content := lineOf text } []
    rw [append_nil] at hself
    rw [supplied, place, if_pos h]
    exact hself
  rw [honce, hsupplied] at hdoubled
  have hnothing := String.append_eq_left_iff.1 hdoubled.symm
  exact lineOf_ne_empty text (String.append_eq_empty_iff.1 hnothing).2

theorem appendsOnce_iff_harmless (hroot : root < s.size) (hclear : op.Clear root s) :
    op.AppendsOnce root s ↔ op.Harmless root s := by
  obtain ⟨hext, hwalk⟩ := locate_spec op.place.1 hroot
  cases hplace : op.place.2 with
  | false =>
    refine iff_of_true (fun q => ?_) fun h => by rw [hplace] at h; cases h
    rw [apply_eq, supplied, hplace, if_neg Bool.false_ne_true, if_neg Bool.false_ne_true,
      String.append_empty]
    exact congrArg Prod.fst (hext.held root q)
  | true =>
    by_cases hitem : ∃ key text, op = addItem key text
    · obtain ⟨key, text, rfl⟩ := hitem
      exact iff_of_false (not_appendsOnce_addItem hroot hplace text)
        fun h => (h hplace).1 key text rfl
    · have hop : ∀ key text, op ≠ addItem key text := fun key text h => hitem ⟨key, text, h⟩
      have ht : (op.target root s).1 < (op.target root s).2.size :=
        walk_lt (Nat.lt_of_lt_of_le hroot hext.size) hwalk
      have hiff := update_appends_iff ht (fitsIn_operand _ op) hwalk (hclear hplace)
      have hbrought : ∀ q, (op.target root s).2.broughtTo op.place.1
          (op.operand (op.target root s).2) q = op.supplied s q := by
        intro q
        rw [supplied, hplace, if_pos rfl, broughtTo, broughtTo]
        exact if_congr Iff.rfl (hext.heldBelow_operand op _) rfl
      have hheld : ∀ q, (op.target root s).2.held root q = s.held root q := hext.held root
      simp only [hbrought, hheld] at hiff
      have hcontent : (op.operand (op.target root s).2).content = (op.operand s).content :=
        hext.heldBelow_operand op []
      rw [AppendsOnce, Harmless, apply_eq, hplace, if_pos rfl, effect_eq hop, hiff, hcontent]
      exact ⟨fun h _ => ⟨hop, h⟩, fun h => (h rfl).2⟩

theorem size_le_alterItem (hroot : root < s.size) (key : String)
    {change : ModuleStore → ModuleId → ModuleStore}
    (hchange : ∀ s t, root < s.size → s.size ≤ (change s t).size) :
    s.size ≤ (s.alterItem root key change).2.size := by
  have hsize := (locate_spec (keyPath key).1 hroot).1.size
  rw [alterItem_eq]
  split
  · exact Nat.le_trans hsize (hchange _ _ (Nat.lt_of_lt_of_le hroot hsize))
  · exact hsize

theorem size_le_apply (hroot : root < s.size) (op : Operation) :
    s.size ≤ (op.apply root s).2.size := by
  have hmerge : ∀ (s : ModuleStore) (t m : ModuleId), s.size ≤ (s.merge t m).size :=
    fun s t m => Nat.le_of_eq (size_update s t _ _).symm
  have hadded : ∀ (s : ModuleStore) (t : ModuleId) (text : String),
      (s.addText t text).size = s.size := fun s t text => size_alter s t _ _
  cases op with
  | add key text =>
    exact size_le_alterItem hroot key fun s t _ => Nat.le_of_eq (hadded s t text).symm
  | addItem key text =>
    refine size_le_alterItem hroot key fun s t h => ?_
    rw [← hadded s t text] at h ⊢
    exact size_le_alterItem h key fun s c _ => hmerge s c t
  | set key m => exact size_le_alterItem hroot key fun s t _ => hmerge s t m
  | update m => exact hmerge s root m

end

/-- Each operation of a run has a property in the store that it is applied to. -/
def Along (root : ModuleId) (P : ModuleStore → Operation → Prop) :
    ModuleStore → List Operation → Prop
  | _, [] => True
  | s, op :: ops => P s op ∧ Along root P (op.apply root s).2 ops

def run (root : ModuleId) (s : ModuleStore) (ops : List Operation) : ModuleStore :=
  ops.foldl (fun s op => (op.apply root s).2) s

def suppliedAlong (root : ModuleId) : ModuleStore → List Operation → List String → String
  | _, [], _ => ""
  | s, op :: ops, q => op.supplied s q ++ suppliedAlong root (op.apply root s).2 ops q

theorem held_run {root : ModuleId} {s : ModuleStore} {ops : List Operation}
    (h : Along root (AppendsOnce root) s ops) (q : List String) :
    ((run root s ops).held root q).1 = (s.held root q).1 ++ suppliedAlong root s ops q := by
  induction ops generalizing s with
  | nil => exact String.append_empty.symm
  | cons op ops ih =>
    change ((run root (op.apply root s).2 ops).held root q).1 = _
    rw [ih h.2, h.1, suppliedAlong, String.append_assoc]

/-- In a run on any store each operation leaves every path with what it led to before, followed once
by what the operation supplies, exactly if nothing is added to an item, texts go to modules that one
path leads to, and submodules come to places without text. Where modules with submodules are merged,
this is said of modules that one path leads to and that are not below the merged ones. An addition
to an item doubles what its module holds. A run of harmless operations appends all that they
supply, in order. -/
theorem run_appends_once_iff (root : ModuleId) (store : ModuleStore) (hroot : root < store.size)
    (ops : List Operation) (hops : Along root (Clear root) store ops) :
    (Along root (AppendsOnce root) store ops ↔ Along root (Harmless root) store ops) ∧
    (∀ (s : ModuleStore) (key text : String), root < s.size → (keyPath key).2 = true →
      (((addItem key text).apply root s).2.held root (keyPath key).1).1 =
        (s.held root (keyPath key).1).1 ++ lineOf text ++
          ((s.held root (keyPath key).1).1 ++ lineOf text)) ∧
    (Along root (Harmless root) store ops → ∀ q, ((run root store ops).held root q).1 =
      (store.held root q).1 ++ suppliedAlong root store ops q) := by
  have hiff : Along root (AppendsOnce root) store ops ↔ Along root (Harmless root) store ops := by
    induction ops generalizing store with
    | nil => exact Iff.rfl
    | cons op ops ih =>
      have hnext := Nat.lt_of_lt_of_le hroot (size_le_apply hroot op)
      exact and_congr (appendsOnce_iff_harmless hroot hops.1) (ih _ hnext hops.2)
  refine ⟨hiff, fun s key text hs h => held_apply_addItem hs h text, fun h q => ?_⟩
  exact held_run (hiff.2 h) q

/-- A store with an empty root and two more modules, each with a submodule `A`. -/
def overlapping : ModuleStore :=
  let s := ((locate ["A"] 1 (empty.push {} rfl)).2.updateLeaf 2 "one\n" []).push {} rfl
  (locate ["A"] 3 s).2.updateLeaf 4 "two\n" []

theorem walk_of_children_eq_nil {s : ModuleStore} {a b : ModuleId} {path : List String}
    (h : (s.get a).children = []) (hwalk : s.walk a path = some b) : path = [] ∧ b = a := by
  cases path with
  | nil => exact ⟨rfl, (Option.some.inj hwalk).symm⟩
  | cons name path =>
    rw [walk, child?, h] at hwalk
    cases hwalk

/-- A module is merged into the empty root, and a text into its submodule. -/
theorem run_appends_once_iff_merged :
    ((run root overlapping [.update 1, .set "A" 4]).held root ["A"]).1 = "one\ntwo\n" := by
  have hbare : (overlapping.get root).children = [] := by decide
  have hleaf : (overlapping.get 2).children = [] := by decide
  obtain ⟨s, hs⟩ : ∃ s, s = locate ["A"] root (overlapping.merge root 1) := ⟨_, rfl⟩
  have hplace : (Operation.set "A" 4).place = (["A"], true) := by decide +kernel
  have hfound : s.1 = 2 ∧ (s.2.get root).children = [("A", 2)] ∧ (s.2.get 2).children = [] ∧
      (s.2.get 4).children = [] := by
    rw [hs]
    decide
  have htarget : (Operation.set "A" 4).target root (overlapping.merge root 1) = s := by
    rw [target, hplace, hs]
  have hclear : Along root (Clear root) overlapping [.update 1, .set "A" 4] := by
    refine ⟨fun _ _ => ⟨fun q hq => (walk_of_children_eq_nil hbare hq).1, ?_⟩,
      fun _ hne => absurd (htarget ▸ hfound.2.2.2) hne, trivial⟩
    intro name c hc path hwalk
    have hentries : (overlapping.get 1).children = [("A", 2)] := by decide
    have hentry := mem_of_child? hc
    change (name, c) ∈ (overlapping.get 1).children at hentry
    rw [hentries, mem_singleton, Prod.mk.injEq] at hentry
    rw [hentry.2] at hwalk
    exact absurd (walk_of_children_eq_nil hleaf hwalk).2 (by decide)
  have hharmless : Along root (Harmless root) overlapping [.update 1, .set "A" 4] := by
    refine ⟨fun _ => ⟨fun _ _ => Operation.noConfusion, .inl (by decide), fun name path _ => ?_⟩,
      fun _ => ⟨fun _ _ => Operation.noConfusion, .inr fun q hq => ?_, fun name path hname => ?_⟩,
      trivial⟩
    · change (overlapping.held root (name :: path)).1 = ""
      rw [held_cons, child?, hbare]
      rfl
    · change ((Operation.set "A" 4).target root (overlapping.merge root 1)).2.walk root q =
        some ((Operation.set "A" 4).target root (overlapping.merge root 1)).1 at hq
      rw [htarget, hfound.1] at hq
      rw [hplace]
      cases q with
      | nil => cases hq
      | cons name path =>
        obtain ⟨c, hc, hwalk⟩ := Option.bind_eq_some_iff.1 hq
        have hentry := mem_of_child? hc
        rw [hfound.2.1, mem_singleton, Prod.mk.injEq] at hentry
        rw [hentry.2] at hwalk
        rw [hentry.1, (walk_of_children_eq_nil hfound.2.2.1 hwalk).1]
    · change (((Operation.set "A" 4).target root (overlapping.merge root 1)).2.get 4).child? name
        |>.isSome at hname
      rw [htarget, child?, hfound.2.2.2] at hname
      cases hname
  have h := (run_appends_once_iff root overlapping (by decide) _ hclear).2.2 hharmless ["A"]
  exact h.trans (by decide +kernel)

/-- What the first tree supplies for its module `A` is lost when the second one is merged. And once a
tree is set at two places, a text for a module of the one shows in the other as well. -/
theorem not_appends_once_overlapping :
    ¬ AppendsOnce root (run root overlapping [.update 1]) (.update 3) ∧
      ¬ AppendsOnce root (run root overlapping [.set "B" 1, .set "C" 1]) (.set "B.A" 4) := by
  refine ⟨fun h => absurd (h ["A"]) (by decide +kernel), fun h => ?_⟩
  exact absurd (h ["C", "A"]) (by decide +kernel)

end ModuleStore

end BindingStubs
