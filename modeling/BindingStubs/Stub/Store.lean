import BindingStubs.Stub.Module

set_option autoImplicit false

/-!
# The store of modules

A submodule comes into being when it is first asked for. Keys are dotted names in which aliases
stand for their modules. A merge makes the submodules of one module those of another as well.
-/

namespace BindingStubs

/-- Submodules have different names and are modules of a store of a given size. -/
structure ModuleRecord.FitsIn (size : Nat) (m : ModuleRecord) : Prop where
  distinct : (m.children.map Prod.fst).Nodup
  within : ∀ entry ∈ m.children, entry.2 < size

namespace ModuleRecord

variable {size : Nat} {m other : ModuleRecord}

theorem fitsIn_of_children_eq_nil (h : m.children = []) : m.FitsIn size where
  distinct := by simp [h]
  within := by simp [h]

theorem FitsIn.mono {larger : Nat} (h : m.FitsIn size) (hsize : size ≤ larger) : m.FitsIn larger where
  distinct := h.distinct
  within entry hentry := Nat.lt_of_lt_of_le (h.within entry hentry) hsize

theorem any_name (entries : List (String × ModuleId)) (name : String) :
    entries.any (fun e => e.1 == name) = decide (name ∈ entries.map Prod.fst) := by
  rw [Bool.eq_iff_iff, List.any_eq_true, decide_eq_true_eq, List.mem_map]
  exact exists_congr fun e => and_congr_right fun _ => beq_iff_eq

theorem names_setEntry (entries : List (String × ModuleId)) (entry : String × ModuleId) :
    (setEntry entries entry).map Prod.fst =
      if entry.1 ∈ entries.map Prod.fst then entries.map Prod.fst
      else entries.map Prod.fst ++ [entry.1] := by
  simp only [setEntry, any_name, decide_eq_true_eq]
  split
  · rw [List.map_map]
    refine List.map_congr_left fun e _ => ?_
    by_cases he : e.1 = entry.1 <;> simp [he]
  · simp

theorem mem_setEntry {entries : List (String × ModuleId)} {entry e : String × ModuleId}
    (h : e ∈ setEntry entries entry) : e ∈ entries ∨ e = entry := by
  rw [setEntry] at h
  split at h
  · obtain ⟨old, hold, rfl⟩ := List.mem_map.1 h
    split
    · exact .inr rfl
    · exact .inl hold
  · simpa using h

theorem FitsIn.setEntry {entry : String × ModuleId} (h : m.FitsIn size) (hentry : entry.2 < size) :
    FitsIn size { m with children := ModuleRecord.setEntry m.children entry } where
  distinct := by
    rw [names_setEntry]
    split
    · exact h.distinct
    · next hnew =>
      refine List.nodup_append.2 ⟨h.distinct, by simp, fun name hname other hother => ?_⟩
      rw [List.mem_singleton.1 hother]
      exact fun heq => hnew (heq ▸ hname)
  within e he := by
    rcases mem_setEntry he with hold | rfl
    · exact h.within e hold
    · exact hentry

theorem FitsIn.update (h : m.FitsIn size) (hother : other.FitsIn size) :
    (m.update other).FitsIn size := by
  have hfold : ∀ {entries : List (String × ModuleId)} {m : ModuleRecord},
      (∀ e ∈ entries, e.2 < size) → m.FitsIn size →
      FitsIn size { m with children := entries.foldl ModuleRecord.setEntry m.children } := by
    intro entries
    induction entries with
    | nil => exact fun _ h => h
    | cons entry entries ih =>
      intro m hentries h
      rw [List.forall_mem_cons] at hentries
      exact ih hentries.2 (h.setEntry hentries.1)
  have hmerged := hfold hother.within h
  exact ⟨hmerged.distinct, hmerged.within⟩

theorem FitsIn.of_children_eq (h : m.FitsIn size) (heq : other.children = m.children) :
    other.FitsIn size :=
  ⟨heq ▸ h.distinct, heq ▸ h.within⟩

end ModuleRecord

structure ModuleStore where
  modules : List ModuleRecord
  sound : ∀ m ∈ modules, m.FitsIn modules.length

namespace ModuleStore

open ModuleRecord

def empty : ModuleStore where
  modules := [{}]
  sound := by simpa using fitsIn_of_children_eq_nil rfl

instance : Inhabited ModuleStore := ⟨.empty⟩

def root : ModuleId := 0

def size (s : ModuleStore) : Nat := s.modules.length

def get (s : ModuleStore) (a : ModuleId) : ModuleRecord := s.modules.getD a {}

theorem fitsIn_get (s : ModuleStore) (a : ModuleId) : (s.get a).FitsIn s.size := by
  rw [get, List.getD_eq_getElem?_getD]
  cases h : s.modules[a]? with
  | none => exact fitsIn_of_children_eq_nil rfl
  | some m => exact s.sound m (List.mem_of_getElem? h)

def set (s : ModuleStore) (a : ModuleId) (m : ModuleRecord) (h : m.FitsIn s.size) : ModuleStore where
  modules := s.modules.set a m
  sound := by
    intro other hother
    rw [List.length_set]
    rcases List.mem_or_eq_of_mem_set hother with hold | rfl
    · exact s.sound other hold
    · exact h

def alter (s : ModuleStore) (a : ModuleId) (change : ModuleRecord → ModuleRecord)
    (h : ∀ m, (change m).children = m.children) : ModuleStore :=
  s.set a (change (s.get a)) ((s.fitsIn_get a).of_children_eq (h _))

def addText (s : ModuleStore) (a : ModuleId) (text : String) : ModuleStore :=
  s.alter a (ModuleRecord.addText text) fun _ => rfl

def addImports (s : ModuleStore) (a : ModuleId) (names : List String) : ModuleStore :=
  s.alter a (ModuleRecord.addImports names) fun _ => rfl

def asPackage (s : ModuleStore) (a : ModuleId) : ModuleStore :=
  s.alter a (fun m => { m with isPackage := true }) fun _ => rfl

def childrenAsPackages (s : ModuleStore) (a : ModuleId) : ModuleStore :=
  (s.get a).children.foldl (fun s entry => s.asPackage entry.2) s

def update (s : ModuleStore) (a : ModuleId) (other : ModuleRecord) (h : other.FitsIn s.size) :
    ModuleStore :=
  s.set a ((s.get a).update other) ((s.fitsIn_get a).update h)

def updateLeaf (s : ModuleStore) (a : ModuleId) (text : String) (imports : List String) :
    ModuleStore :=
  s.update a (.leaf text imports) (fitsIn_of_children_eq_nil rfl)

def push (s : ModuleStore) (m : ModuleRecord) (h : m.children = []) : ModuleStore where
  modules := s.modules ++ [m]
  sound := by
    intro other hother
    rw [List.length_append]
    rcases List.mem_append.1 hother with hold | hnew
    · exact (s.sound other hold).mono (Nat.le_add_right _ _)
    · rw [List.mem_singleton.1 hnew]
      exact fitsIn_of_children_eq_nil h

def addChild (s : ModuleStore) (a : ModuleId) (name : String) : ModuleStore :=
  let grown := s.push { name } rfl
  have hsize : s.size < grown.size := by simp [grown, size, push]
  grown.set a { s.get a with children := setEntry (s.get a).children (name, s.size) }
    (((s.fitsIn_get a).mono (Nat.le_of_lt hsize)).setEntry hsize)

/-- The submodule of a name; there is one from then on. -/
def child (s : ModuleStore) (a : ModuleId) (name : String) : ModuleId × ModuleStore :=
  match (s.get a).child? name with
  | some c => (c, s)
  | none => (s.size, s.addChild a name)

/-- Makes a module the parent of one that has none. -/
def adopt (s : ModuleStore) (a c : ModuleId) : ModuleStore :=
  s.alter c (fun m => { m with parent := m.parent.or (some a) }) fun _ => rfl

def locate : (path : List String) → ModuleId → ModuleStore → ModuleId × ModuleStore
  | [], a, s => (a, s)
  | name :: path, a, s =>
    let (c, s) := s.child a name
    locate path c (s.adopt a c)

/-- The path of a key, and whether the key is complete; one that ends with a dot is not. -/
def keyPath (key : String) : List String × Bool :=
  let parts := (Text.split key ".").map Naming.canonical
  if parts.getLast? == some "" then (parts.dropLast, false) else (parts, true)

/-- The module with a key. An incomplete key is refused after its path came into being. -/
def item (s : ModuleStore) (a : ModuleId) (key : String) : Except Fault ModuleId × ModuleStore :=
  let (path, isComplete) := keyPath key
  let (c, s) := locate path a s
  (if isComplete then .ok c else .error .emptyModuleName, s)

/-- Changes the module with a key, if the key is accepted. -/
def alterItem (s : ModuleStore) (a : ModuleId) (key : String)
    (change : ModuleStore → ModuleId → ModuleStore) : Except Fault Unit × ModuleStore :=
  match s.item a key with
  | (.ok c, s) => (.ok (), change s c)
  | (.error f, s) => (.error f, s)

def merge (s : ModuleStore) (a m : ModuleId) : ModuleStore :=
  s.update a (s.get m) (s.fitsIn_get m)

/-- Setting an item merges: the module with the key stays and takes in the other one. -/
def setItem (s : ModuleStore) (a : ModuleId) (key : String) (m : ModuleId) :
    Except Fault Unit × ModuleStore :=
  s.alterItem a key fun s c => s.merge c m

/-- The dotted name of a module, which starts anew after a module without name. -/
def fullNameWithin (s : ModuleStore) : (depth : Nat) → ModuleId → String
  | 0, a => (s.get a).name
  | depth + 1, a => match (s.get a).parent with
    | none => (s.get a).name
    | some parent =>
      if (s.get parent).name.isEmpty then (s.get a).name
      else s.fullNameWithin depth parent ++ "." ++ (s.get a).name

def fullName (s : ModuleStore) (a : ModuleId) : String := s.fullNameWithin s.size a

def treeWithin (s : ModuleStore) : (depth : Nat) → ModuleId → StubModule
  | 0, _ => .empty
  | depth + 1, a =>
    .node (s.get a).content (s.get a).imports (s.get a).isPackage
      ((s.get a).children.map fun entry => (entry.1, s.treeWithin depth entry.2))

/-- A module with what is below it. No path without repetition is longer than the store. -/
def tree (s : ModuleStore) (a : ModuleId) : StubModule := s.treeWithin s.size a

end ModuleStore

end BindingStubs
