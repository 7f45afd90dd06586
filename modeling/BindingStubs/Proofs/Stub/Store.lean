import BindingStubs.Proofs.Stub.Paths
import BindingStubs.Proofs.Text.Search

set_option autoImplicit false

/-! # Updates of the store -/

namespace BindingStubs

open List

theorem Naming.canonical_ne_empty {name : String} (h : name ≠ "") : canonical name ≠ "" := by
  have hmodules : ∀ entry ∈ moduleAliases, entry.1 ≠ "" := by decide
  rw [canonical, moduleOfAlias?]
  cases hfound : moduleAliases.find? fun entry => entry.2 == name with
  | none => exact h
  | some entry => exact hmodules entry (mem_of_find?_eq_some hfound)

namespace ModuleStore

open ModuleRecord

/-- The names on the way to a module: at least one, none empty and none with a dot. -/
structure IsModulePath (path : List String) : Prop where
  nonempty : path ≠ []
  named : ∀ name ∈ path, name ≠ ""
  undotted : ∀ name ∈ path, '.' ∉ name.toList

instance (path : List String) : Decidable (IsModulePath path) :=
  decidable_of_iff (path ≠ [] ∧ (∀ name ∈ path, name ≠ "") ∧ ∀ name ∈ path, '.' ∉ name.toList)
    ⟨fun ⟨h₁, h₂, h₃⟩ => ⟨h₁, h₂, h₃⟩, fun ⟨h₁, h₂, h₃⟩ => ⟨h₁, h₂, h₃⟩⟩

def dotted (path : List String) : String := Text.join "." path

def canonicalPath (path : List String) : List String := path.map Naming.canonical

theorem canonicalPath_named {path : List String} (h : IsModulePath path) :
    ∀ name ∈ canonicalPath path, name ≠ "" := by
  intro name hname
  obtain ⟨part, hpart, rfl⟩ := mem_map.1 hname
  exact Naming.canonical_ne_empty (h.named part hpart)

theorem keyPath_dotted {path : List String} (h : IsModulePath path) :
    keyPath (dotted path) = (canonicalPath path, true) := by
  have hsplit : Text.split (dotted path) "." = path := Text.split_join rfl h.nonempty h.undotted
  have hlast : (canonicalPath path).getLast? ≠ some "" := by
    intro hlast
    exact canonicalPath_named h "" (mem_of_getLast? hlast) rfl
  rw [keyPath, hsplit, ← canonicalPath]
  simp [hlast]

theorem item_dotted {path : List String} (h : IsModulePath path) (s : ModuleStore) (a : ModuleId) :
    s.item a (dotted path) =
      (.ok (locate (canonicalPath path) a s).1, (locate (canonicalPath path) a s).2) := by
  rw [item, keyPath_dotted h]
  rfl

/-- What a module is in the tree of modules. -/
def links (m : ModuleRecord) : String × Option ModuleId × List (String × ModuleId) :=
  (m.name, m.parent, m.children)

/-- Each submodule has the name of its entry, is younger than the module with the entry, and has
that module as its parent. The root has neither name nor parent. -/
structure IsTree (s : ModuleStore) : Prop where
  entry : ∀ {a name c}, (s.get a).child? name = some c →
    (s.get c).name = name ∧ (s.get c).parent = some a ∧ a < c
  root_links : (s.get root).name = "" ∧ (s.get root).parent = none
  root_lt : root < s.size

theorem isTree_empty : IsTree empty where
  entry {a name c} h := by
    have hget : empty.get a = {} := by
      cases a with
      | zero => rfl
      | succ a => exact get_of_size_le (Nat.le_add_left _ _)
    rw [hget] at h
    cases h
  root_links := ⟨rfl, rfl⟩
  root_lt := Nat.one_pos

variable {s : ModuleStore}

theorem IsTree.of_links {t : ModuleStore} (h : IsTree s)
    (hlinks : ∀ b, links (t.get b) = links (s.get b)) (hsize : t.size = s.size) : IsTree t := by
  have hname : ∀ b, (t.get b).name = (s.get b).name := fun b => congrArg Prod.fst (hlinks b)
  have hparent : ∀ b, (t.get b).parent = (s.get b).parent := fun b => congrArg (·.2.1) (hlinks b)
  have hchildren : ∀ b, (t.get b).children = (s.get b).children := fun b =>
    congrArg (·.2.2) (hlinks b)
  refine ⟨fun {a name c} hc => ?_, ?_, hsize ▸ h.root_lt⟩
  · rw [child?, hchildren] at hc
    rw [hname, hparent]
    exact h.entry hc
  · rw [hname, hparent]
    exact h.root_links

theorem get_adopt_addChild {a : ModuleId} (ha : a < s.size) (name : String) (b : ModuleId) :
    ((s.addChild a name).adopt a s.size).get b =
      if b = s.size then { name, parent := some a }
      else if b = a then { s.get a with children := setEntry (s.get a).children (name, s.size) }
      else s.get b := by
  have hnew : s.size < (s.addChild a name).size := by
    rw [size_addChild]
    exact Nat.lt_succ_self _
  rw [adopt, get_alter hnew, get_addChild ha, get_addChild ha]
  split
  · simp [Nat.ne_of_gt ha]
  · rfl

theorem IsTree.addChild {a : ModuleId} (h : IsTree s) (ha : a < s.size) (name : String) :
    IsTree ((s.addChild a name).adopt a s.size) := by
  -- The names and parents of modules that were there are as before.
  have hold : ∀ {c}, c < s.size → ∀ {other b}, (s.get c).name = other ∧
      (s.get c).parent = some b ∧ b < c →
      (((s.addChild a name).adopt a s.size).get c).name = other ∧
        (((s.addChild a name).adopt a s.size).get c).parent = some b ∧ b < c := by
    intro c hc other b hlinks
    rw [get_adopt_addChild ha, if_neg (Nat.ne_of_lt hc)]
    split
    · next hca => exact hca ▸ hlinks
    · exact hlinks
  refine ⟨fun {b other c} hc => ?_, ?_, ?_⟩
  · rw [get_adopt_addChild ha] at hc
    split at hc
    · cases hc
    · split at hc
      · next hba =>
        rw [child?_setEntry] at hc
        split at hc
        · next hname =>
          obtain rfl := Option.some.inj hc
          rw [get_adopt_addChild ha, if_pos rfl]
          exact ⟨hname, congrArg some hba.symm, hba ▸ ha⟩
        · exact hold (child?_lt hc) (hba ▸ h.entry hc)
      · exact hold (child?_lt hc) (h.entry hc)
  · rw [get_adopt_addChild ha, if_neg (Nat.ne_of_lt h.root_lt)]
    split
    · next hroot => exact hroot ▸ h.root_links
    · exact h.root_links
  · rw [adopt, size_alter, size_addChild]
    exact Nat.lt_succ_of_lt h.root_lt

theorem IsTree.child {a : ModuleId} (h : IsTree s) (ha : a < s.size) (name : String) :
    IsTree ((s.child a name).2.adopt a (s.child a name).1) := by
  rw [ModuleStore.child]
  cases hchild : (s.get a).child? name with
  | some c =>
    refine h.of_links (fun b => ?_) (size_alter s c _ _)
    rw [adopt, get_alter (child?_lt hchild)]
    split
    · next hb => rw [hb]; simp [links, (h.entry hchild).2.1]
    · rfl
  | none => exact h.addChild ha name

theorem IsTree.locate {a : ModuleId} (h : IsTree s) (ha : a < s.size) (path : List String) :
    IsTree (locate path a s).2 := by
  induction path generalizing a s with
  | nil => exact h
  | cons name path ih =>
    have hc := child?_lt (child_spec ha name).2
    exact ih (h.child ha name) (Nat.lt_of_lt_of_le hc (extends_adopt hc).size)

theorem IsTree.walk_concat {m : ModuleId} (h : IsTree s) {path : List String} {name : String}
    (hwalk : s.walk root (path ++ [name]) = some m) :
    ∃ b, s.walk root path = some b ∧ (s.get m).name = name ∧ (s.get m).parent = some b ∧ b < m := by
  rw [ModuleStore.walk_concat] at hwalk
  obtain ⟨b, hb, hchild⟩ := Option.bind_eq_some_iff.1 hwalk
  exact ⟨b, hb, h.entry hchild⟩

theorem IsTree.eq_of_walk (h : IsTree s) {p q : List String} {m : ModuleId}
    (hp : s.walk root p = some m) (hq : s.walk root q = some m) : p = q := by
  have hroot : ∀ {path : List String} {name}, s.walk root (path ++ [name]) ≠ some root := by
    intro path name hwalk
    obtain ⟨b, -, -, hparent, -⟩ := h.walk_concat hwalk
    rw [h.root_links.2] at hparent
    cases hparent
  induction p using reverseRecOn generalizing q m with
  | nil =>
    obtain rfl := Option.some.inj hp
    rcases eq_nil_or_concat q with rfl | ⟨q, name, rfl⟩
    · rfl
    · rw [concat_eq_append] at hq
      exact absurd hq hroot
  | append_singleton p name ih =>
    rcases eq_nil_or_concat q with rfl | ⟨q, other, rfl⟩
    · obtain rfl := Option.some.inj hq
      exact absurd hp hroot
    · rw [concat_eq_append] at hq ⊢
      obtain ⟨b, hb, rfl, hparent, -⟩ := h.walk_concat hp
      obtain ⟨c, hc, rfl, hparent', -⟩ := h.walk_concat hq
      rw [hparent] at hparent'
      obtain rfl := Option.some.inj hparent'
      rw [ih hb hc]

theorem dotted_concat {path : List String} (h : path ≠ []) (name : String) :
    dotted (path ++ [name]) = dotted path ++ "." ++ name := by
  induction path with
  | nil => exact absurd rfl h
  | cons first path ih =>
    cases path with
    | nil => simp [dotted, Text.join]
    | cons second path =>
      have hrest := ih (cons_ne_nil second path)
      simp only [dotted, Text.join, cons_append, String.intercalate_cons_cons] at hrest ⊢
      rw [hrest]
      simp only [String.append_assoc]

theorem IsTree.fullNameWithin_eq (h : IsTree s) {path : List String} {m : ModuleId}
    (hwalk : s.walk root path = some m) (hnamed : ∀ name ∈ path, name ≠ "") {depth : Nat}
    (hdepth : m ≤ depth) : s.fullNameWithin depth m = dotted path := by
  induction path using reverseRecOn generalizing m depth with
  | nil =>
    obtain rfl := Option.some.inj hwalk
    cases depth <;> simp [fullNameWithin, h.root_links] <;> rfl
  | append_singleton path name ih =>
    obtain ⟨b, hb, hname, hparent, hlt⟩ := h.walk_concat hwalk
    have hbelow : b < depth := Nat.lt_of_lt_of_le hlt hdepth
    obtain ⟨depth, rfl⟩ := Nat.exists_eq_succ_of_ne_zero (Nat.ne_zero_of_lt hbelow)
    have hrest := ih hb (fun n hn => hnamed n (mem_append_left _ hn)) (Nat.le_of_lt_succ hbelow)
    simp only [fullNameWithin, hparent, hname, hrest]
    rcases eq_nil_or_concat path with rfl | ⟨front, last, rfl⟩
    · obtain rfl := Option.some.inj hb
      rw [h.root_links.1]
      rfl
    · rw [concat_eq_append] at hb hnamed ⊢
      obtain ⟨-, -, hlast, -, -⟩ := h.walk_concat hb
      have hne : last ≠ "" := hnamed last (by simp)
      rw [hlast, if_neg (by simpa using hne)]
      exact (dotted_concat (by simp) name).symm

/-- A leaf module is added to the module at a path, or the module is only looked up. -/
inductive StoreStep where
  | update (path : List String) (text : String) (imports : List String)
  | lookUp (path : List String)

namespace StoreStep

def path : StoreStep → List String
  | update path _ _ => path
  | lookUp path => path

def change : StoreStep → ModuleStore → ModuleId → ModuleStore
  | update _ text imports, store, m => store.updateLeaf m text imports
  | lookUp _, store, _ => store

def apply (store : ModuleStore) (step : StoreStep) : Except Fault Unit × ModuleStore :=
  store.alterItem root (dotted step.path) step.change

/-- The text and imports that a step supplies for the module at a canonical path. -/
def supplied? (q : List String) : StoreStep → Option (String × List String)
  | update path text imports => if canonicalPath path = q then some (text, imports) else none
  | lookUp _ => none

end StoreStep

def storeAfter (store : ModuleStore) (steps : List StoreStep) : ModuleStore :=
  steps.foldl (fun store step => (step.apply store).2) store

/-- The texts and imports that a run supplies for the module at a canonical path. -/
def suppliedFor (q : List String) (steps : List StoreStep) : List (String × List String) :=
  steps.filterMap (StoreStep.supplied? q)

theorem StoreStep.apply_eq {step : StoreStep} (h : IsModulePath step.path) (s : ModuleStore) :
    step.apply s = (.ok (), step.change (locate (canonicalPath step.path) root s).2
      (locate (canonicalPath step.path) root s).1) := by
  rw [apply, alterItem_eq, keyPath_dotted h]
  rfl

theorem held_updateLeaf {m : ModuleId} (h : m < s.size) (text : String) (imports : List String)
    (a : ModuleId) (q : List String) : (s.updateLeaf m text imports).held a q =
      if s.walk a q = some m then addSupply (s.held a q) (text, imports) else s.held a q := by
  rw [updateLeaf, update, held_set h]
  · split
    · next hwalk => rw [own_update_leaf, held, hwalk]; rfl
    · rfl
  · exact fun _ => rfl

theorem IsTree.updateLeaf (h : IsTree s) {m : ModuleId} (hm : m < s.size) (text : String)
    (imports : List String) : IsTree (s.updateLeaf m text imports) := by
  refine h.of_links (fun b => ?_) (size_update s m _ _)
  rw [ModuleStore.updateLeaf, update, get_set hm]
  split
  · next hb => rw [hb]; rfl
  · rfl

theorem IsTree.apply (h : IsTree s) {step : StoreStep} (hstep : IsModulePath step.path) :
    IsTree (step.apply s).2 := by
  have hlocated := h.locate h.root_lt (canonicalPath step.path)
  have hwalk := (locate_spec (canonicalPath step.path) h.root_lt).2
  rw [StoreStep.apply_eq hstep]
  cases step with
  | update path text imports =>
    exact hlocated.updateLeaf (walk_lt hlocated.root_lt hwalk) text imports
  | lookUp path => exact hlocated

theorem held_apply (h : IsTree s) {step : StoreStep} (hstep : IsModulePath step.path)
    (q : List String) :
    (step.apply s).2.held root q =
      (step.supplied? q).elim (s.held root q) (addSupply (s.held root q)) := by
  obtain ⟨hext, hwalk⟩ := locate_spec (canonicalPath step.path) h.root_lt
  have hlocated := h.locate h.root_lt (canonicalPath step.path)
  rw [StoreStep.apply_eq hstep, ← hext.held root q]
  cases step with
  | update path text imports =>
    rw [StoreStep.change, held_updateLeaf (walk_lt hlocated.root_lt hwalk), StoreStep.supplied?]
    by_cases hq : canonicalPath path = q
    · rw [if_pos (hq ▸ hwalk), if_pos hq]
      rfl
    · rw [if_neg fun hother => hq (hlocated.eq_of_walk hwalk hother), if_neg hq]
      rfl
  | lookUp path => rfl

theorem storeAfter_spec (h : IsTree s) {steps : List StoreStep}
    (hsteps : ∀ step ∈ steps, IsModulePath step.path) (q : List String) :
    IsTree (storeAfter s steps) ∧
      (storeAfter s steps).held root q = (suppliedFor q steps).foldl addSupply (s.held root q) := by
  induction steps generalizing s with
  | nil => exact ⟨h, rfl⟩
  | cons step steps ih =>
    rw [forall_mem_cons] at hsteps
    obtain ⟨htree, hheld⟩ := ih (h.apply hsteps.1) hsteps.2
    refine ⟨htree, hheld.trans ?_⟩
    rw [held_apply h hsteps.1, suppliedFor, suppliedFor, filterMap_cons]
    cases step.supplied? q <;> rfl

theorem foldl_addSupply (supplies : List (String × List String)) (own : String × NameSet) :
    supplies.foldl addSupply own =
      (own.1 ++ String.join (supplies.map Prod.fst),
        own.2.insertAll (supplies.flatMap Prod.snd)) := by
  induction supplies generalizing own with
  | nil => simp [OrderedSet.insertAll]
  | cons supply supplies ih =>
    rw [foldl_cons, ih, addSupply, map_cons, String.join_cons, flatMap_cons,
      OrderedSet.insertAll_append, String.append_assoc]

theorem held_empty (q : List String) : empty.held root q = ("", .empty) := by
  cases q <;> rfl

theorem supplied?_eq_none {step : StoreStep} {q : List String}
    (h : step = .lookUp step.path ∨ canonicalPath step.path ≠ q) : step.supplied? q = none := by
  cases step with
  | update path text imports =>
    rcases h with h | h
    · cases h
    · exact if_neg h
  | lookUp path => rfl

/-- After any run from an empty store, the module that a key leads to holds the texts of the updates
whose paths lead to it, joined in order, and their imports in order of first occurrence. Its full
name, read off the names and parents in the store, is its canonical path. No step of the run is
refused, and a further look-up, or update of another path, leaves what the module holds as it is. -/
theorem store_keeps_updates (steps : List StoreStep)
    (hsteps : ∀ step ∈ steps, IsModulePath step.path) (q : List String) (hq : IsModulePath q) :
    (∀ step ∈ steps, ∀ store, (step.apply store).1 = .ok ()) ∧
      (∃ m store, (storeAfter empty steps).item root (dotted q) = (.ok m, store) ∧
        (store.get m).content =
          String.join ((suppliedFor (canonicalPath q) steps).map Prod.fst) ∧
        (store.get m).imports.toList =
          ((suppliedFor (canonicalPath q) steps).flatMap Prod.snd).eraseDups ∧
        store.fullName m = dotted (canonicalPath q)) ∧
      ∀ step : StoreStep, IsModulePath step.path →
        (step = .lookUp step.path ∨ canonicalPath step.path ≠ canonicalPath q) →
        (step.apply (storeAfter empty steps)).2.held root (canonicalPath q) =
          (storeAfter empty steps).held root (canonicalPath q) := by
  obtain ⟨htree, hheld⟩ := storeAfter_spec isTree_empty hsteps (canonicalPath q)
  refine ⟨fun step hstep store => congrArg Prod.fst (StoreStep.apply_eq (hsteps step hstep) store),
    ⟨_, _, item_dotted hq _ root, ?_⟩, ?_⟩
  · obtain ⟨hext, hwalk⟩ := locate_spec (canonicalPath q) htree.root_lt
    have hlocated := htree.locate htree.root_lt (canonicalPath q)
    generalize ModuleStore.locate (canonicalPath q) root (storeAfter empty steps) = found
      at hext hwalk hlocated ⊢
    have hown : (found.2.get found.1).own =
        ("" ++ String.join ((suppliedFor (canonicalPath q) steps).map Prod.fst),
          OrderedSet.ofList ((suppliedFor (canonicalPath q) steps).flatMap Prod.snd)) := by
      have hfound := hext.held root (canonicalPath q)
      rw [hheld, held_empty, foldl_addSupply, ModuleStore.held, hwalk] at hfound
      exact hfound
    refine ⟨?_, ?_, ?_⟩
    · rw [String.empty_append] at hown
      exact congrArg Prod.fst hown
    · rw [← OrderedSet.toList_ofList]
      exact congrArg (fun own => own.2.toList) hown
    · exact hlocated.fullNameWithin_eq hwalk (canonicalPath_named hq)
        (Nat.le_of_lt (walk_lt hlocated.root_lt hwalk))
  · intro step hstep hother
    rw [held_apply htree hstep, supplied?_eq_none hother]
    rfl

/-- Two updates of one module, under its name and under its alias, with a look-up and an update of
its parent between them. -/
theorem store_keeps_updates_alias :
    let steps : List StoreStep := [.update ["Part", "Geo"] "a\n" ["FreeCAD"], .lookUp ["PartModule"],
      .update ["Part"] "c\n" ["math"], .update ["PartModule", "Geo"] "b\n" ["typing", "FreeCAD"]]
    ∃ m store, (storeAfter empty steps).item root "PartModule.Geo" = (.ok m, store) ∧
      (store.get m).content = "a\nb\n" ∧ (store.get m).imports.toList = ["FreeCAD", "typing"] ∧
      store.fullName m = "Part.Geo" := by
  exact (store_keeps_updates
    [.update ["Part", "Geo"] "a\n" ["FreeCAD"], .lookUp ["PartModule"],
      .update ["Part"] "c\n" ["math"], .update ["PartModule", "Geo"] "b\n" ["typing", "FreeCAD"]]
    (by decide) ["PartModule", "Geo"] (by decide)).2.1

end ModuleStore

end BindingStubs
