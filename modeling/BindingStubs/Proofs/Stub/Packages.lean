import BindingStubs.Proofs.Stub.Saving

set_option autoImplicit false

/-! # Package trees -/

namespace BindingStubs.StubModule

open List

def moduleAt? : List String → StubModule → Option StubModule
  | [], m => some m
  | name :: rest, m => (m.child? name).bind (moduleAt? rest)

theorem moduleAt?_append (p q : List String) (m : StubModule) :
    m.moduleAt? (p ++ q) = (m.moduleAt? p).bind (moduleAt? q) := by
  induction p generalizing m with
  | nil => rfl
  | cons name p ih =>
    rw [cons_append, moduleAt?, moduleAt?, Option.bind_assoc]
    congr 1
    funext child
    exact ih child

variable {m : StubModule}

theorem child?_eq_some_iff (hm : WellNamed m) {name : String} {child : StubModule} :
    m.child? name = some child ↔ (name, child) ∈ m.children := by
  have distinct := hm.distinct
  rw [child?]
  generalize m.children = children at distinct ⊢
  induction children with
  | nil => simp
  | cons entry children ih =>
    obtain ⟨first, other⟩ := entry
    rw [map_cons, nodup_cons] at distinct
    have hrest : (children.find? fun entry => entry.1 == name).map Prod.snd = some child ↔
        (name, child) ∈ children := ih distinct.2
    rw [find?_cons, mem_cons, ← hrest]
    by_cases hname : first = name
    · subst hname
      have hnone : children.find? (fun entry => entry.1 == first) = none := by
        rw [find?_eq_none]
        intro entry hentry hfirst
        exact distinct.1 (mem_map.2 ⟨entry, hentry, by simpa using hfirst⟩)
      simp [hnone, eq_comm]
    · have hbeq : (first == name) = false := by simpa using hname
      simp [hbeq, Ne.symm hname]

variable {p : List String}

theorem wellNamed_of_moduleAt? {root m : StubModule} (hroot : WellNamed root)
    (h : root.moduleAt? p = some m) : WellNamed m ∧ ∀ name ∈ p, IsFileName name := by
  induction p generalizing root with
  | nil =>
    obtain rfl := Option.some.inj h
    exact ⟨hroot, by simp⟩
  | cons name p ih =>
    obtain ⟨child, hchild, hm⟩ := Option.bind_eq_some_iff.1 h
    rw [child?_eq_some_iff hroot] at hchild
    obtain ⟨hm, hp⟩ := ih (hroot.child _ hchild) hm
    exact ⟨hm, forall_mem_cons.2 ⟨hroot.named _ hchild, hp⟩⟩

theorem anyHasText_iff {children : List (String × StubModule)} :
    anyHasText children = true ↔ ∃ entry ∈ children, entry.2.hasText = true := by
  induction children with
  | nil => simp [anyHasText]
  | cons entry children ih =>
    rw [anyHasText, Bool.or_eq_true, ih]
    simp

theorem hasText_eq (m : StubModule) :
    m.hasText = (!m.content.isEmpty || anyHasText m.children) := by
  cases m
  rw [hasText]
  rfl

theorem exists_moduleAt?_iff (hm : WellNamed m) {P : List String → StubModule → Prop} :
    (∃ p x, m.moduleAt? p = some x ∧ P p x) ↔
      P [] m ∨ ∃ entry ∈ m.children, ∃ p x, entry.2.moduleAt? p = some x ∧ P (entry.1 :: p) x := by
  constructor
  · rintro ⟨p, x, hx, hP⟩
    cases p with
    | nil =>
      obtain rfl := Option.some.inj hx
      exact .inl hP
    | cons name p =>
      obtain ⟨child, hchild, hx⟩ := Option.bind_eq_some_iff.1 hx
      exact .inr ⟨(name, child), (child?_eq_some_iff hm).1 hchild, p, x, hx, hP⟩
  · rintro (hP | ⟨⟨name, child⟩, hchild, p, x, hx, hP⟩)
    · exact ⟨[], m, rfl, hP⟩
    · refine ⟨name :: p, x, ?_, hP⟩
      rw [moduleAt?, (child?_eq_some_iff hm).2 hchild]
      exact hx

theorem hasText_iff (hm : WellNamed m) :
    m.hasText = true ↔ ∃ p x, m.moduleAt? p = some x ∧ x.content ≠ "" := by
  induction hm with
  | @node content imports isPackage children distinct named below ih =>
    rw [exists_moduleAt?_iff (.node distinct named below), hasText_eq, Bool.or_eq_true,
      anyHasText_iff, Bool.not_eq_true', String.isEmpty_eq_false_iff]
    exact or_congr Iff.rfl (exists_congr fun entry => and_congr_right fun hentry => ih entry hentry)

theorem mem_laidOut (hm : WellNamed m) (place : List String) (file : List String × String) :
    file ∈ laidOut m place ↔ ∃ p x, m.moduleAt? p = some x ∧
      ownFile? (anyHasText x.children) (place ++ p) x = some file := by
  induction hm generalizing place with
  | @node content imports isPackage children distinct named below ih =>
    have hbelow : ∀ entry ∈ children, (file ∈ laidOut entry.2 (place ++ [entry.1]) ↔
        ∃ p x, entry.2.moduleAt? p = some x ∧
          ownFile? (anyHasText x.children) (place ++ entry.1 :: p) x = some file) := by
      intro entry hentry
      rw [ih entry hentry]
      simp
    rw [exists_moduleAt?_iff (.node distinct named below), laidOut, mem_append,
      mem_laidOutAll, Option.mem_toList, or_comm, append_nil]
    exact or_congr Iff.rfl (exists_congr fun entry => and_congr_right (hbelow entry))

theorem mem_files_save {root : StubModule} (hroot : WellNamed root) (hcontent : root.content = "")
    (hasTarget : Bool) (file : List String × String) :
    file ∈ (root.save { hasTarget := hasTarget }).files ↔ ∃ p m, root.moduleAt? p = some m ∧
      ownFile? (marksDirectory hasTarget p m) p m = some file := by
  rw [files_save hroot hcontent, mem_append, mem_laidOutAll, Option.mem_toList, or_comm,
    exists_moduleAt?_iff hroot]
  refine or_congr Iff.rfl (exists_congr fun entry => and_congr_right fun hentry => ?_)
  rw [mem_laidOut (hroot.child entry hentry)]
  refine exists_congr fun p => exists_congr fun m => and_congr_right fun _ => ?_
  rw [marksDirectory_eq (cons_ne_nil _ _)]
  rfl

def LiesIn (directory path : List String) : Prop := ∃ next rest, path = directory ++ next :: rest

/-- Files that make a tree of modules importable. -/
structure IsPackageTree (root : StubModule) (files : List (List String × String)) : Prop where
  single : (files.map Prod.fst).Nodup
  written : ∀ p m, root.moduleAt? p = some m → m.content ≠ "" →
    (filePath p m, m.fileText) ∈ files
  apart : ∀ p m p' m', root.moduleAt? p = some m → root.moduleAt? p' = some m' →
    m.content ≠ "" → m'.content ≠ "" → filePath p m = filePath p' m' → p = p'
  /-- A directory with a file in it is that of a module and has an initial file, which is empty
  exactly if the module has no text. -/
  marked : ∀ directory, ∀ file ∈ files, LiesIn directory file.1 →
    ∃ m text, root.moduleAt? directory = some m ∧ (directory ++ [initialFile], text) ∈ files ∧
      (text = "" ↔ m.content = "")
  /-- A file is that of a module with text or marks a directory with such a file in it; the target
  directory may be marked without one. -/
  needed : ∀ file ∈ files,
    (∃ p m, root.moduleAt? p = some m ∧ m.content ≠ "" ∧ file = (filePath p m, m.fileText)) ∨
      ∃ directory, file = (directory ++ [initialFile], "") ∧
        (directory = [] ∨ ∃ p m, root.moduleAt? p = some m ∧ m.content ≠ "" ∧
          LiesIn directory (filePath p m))
  /-- No file stands where a directory has to be. -/
  unblocked : ∀ file ∈ files, ∀ other ∈ files, ¬ LiesIn file.1 other.1

theorem liesIn_concat {directory path : List String} {name : String} :
    LiesIn directory (path ++ [name]) ↔ directory <+: path := by
  constructor
  · rintro ⟨next, rest, h⟩
    refine (prefix_concat_iff.1 ⟨next :: rest, h.symm⟩).resolve_left ?_
    rintro rfl
    simp at h
  · rintro ⟨rest, rfl⟩
    rw [LiesIn, append_assoc]
    cases rest with
    | nil => exact ⟨name, [], rfl⟩
    | cons next rest => exact ⟨next, rest ++ [name], rfl⟩

theorem liesIn_filePath {directory place : List String} :
    LiesIn directory (filePath place m) ↔
      directory <+: if m.children.isEmpty && !m.isPackage then place.dropLast else place := by
  rw [filePath]
  split <;> exact liesIn_concat

variable {file : List String × String}

theorem prefix_of_liesIn {marks : Bool} {directory place : List String}
    (hfile : ownFile? marks place m = some file) (h : LiesIn directory file.1) :
    directory <+: place := by
  rcases ownFile?_eq_some.1 hfile with ⟨-, rfl⟩ | ⟨-, -, rfl⟩
  · rw [liesIn_filePath] at h
    split at h
    · exact h.trans (List.dropLast_prefix place)
    · exact h
  · exact liesIn_concat.1 h

theorem fileText_ne_empty (m : StubModule) : m.fileText ≠ "" := by
  intro h
  have hlength := congrArg String.length h
  simp [fileText] at hlength

theorem exists_initial (h : anyHasText m.children = true) (hasTarget : Bool) (place : List String) :
    ∃ text, ownFile? (marksDirectory hasTarget place m) place m =
      some (place ++ [initialFile], text) ∧ (text = "" ↔ m.content = "") := by
  have hchildren : m.children.isEmpty = false := isEmpty_of_anyHasText h
  by_cases hcontent : m.content = ""
  · refine ⟨"", ownFile?_eq_some.2 (.inr ⟨hcontent, ?_, rfl⟩), by simp [hcontent]⟩
    simp [marksDirectory, hchildren, h]
  · refine ⟨m.fileText, ownFile?_eq_some.2 (.inl ⟨hcontent, ?_⟩), ?_⟩
    · rw [filePath_of_children hchildren]
    · simp [hcontent, fileText_ne_empty]

theorem anyHasText_iff_below (hm : WellNamed m) :
    anyHasText m.children = true ↔
      ∃ p x, m.moduleAt? p = some x ∧ p ≠ [] ∧ x.content ≠ "" := by
  rw [exists_moduleAt?_iff hm, anyHasText_iff]
  simp only [ne_eq, not_true_eq_false, false_and, false_or, reduceCtorEq, not_false_eq_true,
    true_and]
  exact exists_congr fun entry => and_congr_right fun hentry => hasText_iff (hm.child entry hentry)

section
variable {root : StubModule} {hasTarget : Bool}

theorem hasText_of_ownFile? (hp : p ≠ [])
    (h : ownFile? (marksDirectory hasTarget p m) p m = some file) : m.hasText = true := by
  rw [marksDirectory_eq hp] at h
  rw [hasText_eq]
  rcases ownFile?_eq_some.1 h with ⟨hcontent, -⟩ | ⟨-, htext, -⟩
  · simp [hcontent]
  · simp [htext]

theorem initial_of_liesIn_own {marks : Bool} (hp : p = [] → m.content = "")
    (hown : ownFile? marks p m = some file) (h : LiesIn p file.1) :
    file.1 = p ++ [initialFile] ∧ (file.2 = "" ↔ m.content = "") := by
  rcases ownFile?_eq_some.1 hown with ⟨hcontent, rfl⟩ | ⟨hcontent, -, rfl⟩
  · have hplain : (m.children.isEmpty && !m.isPackage) = false := by
      by_contra hplain
      rw [liesIn_filePath, if_pos (by simpa using hplain)] at h
      have hlength := h.length_le
      rw [length_dropLast] at hlength
      have hnil : p = [] := length_eq_zero_iff.1 (by omega)
      exact hcontent (hp hnil)
    simp [filePath, hplain, hcontent, fileText_ne_empty]
  · simp [hcontent]

theorem save_marked (hroot : WellNamed root) (hcontent : root.content = "")
    {directory : List String} (hfile : file ∈ (root.save { hasTarget := hasTarget }).files)
    (h : LiesIn directory file.1) :
    ∃ m text, root.moduleAt? directory = some m ∧
      (directory ++ [initialFile], text) ∈ (root.save { hasTarget := hasTarget }).files ∧
      (text = "" ↔ m.content = "") := by
  obtain ⟨p, m, hm, hown⟩ := (mem_files_save hroot hcontent hasTarget file).1 hfile
  obtain ⟨rest, rfl⟩ := prefix_of_liesIn hown h
  rw [moduleAt?_append, Option.bind_eq_some_iff] at hm
  obtain ⟨y, hy, hm⟩ := hm
  cases rest with
  | nil =>
    obtain rfl := Option.some.inj hm
    rw [append_nil] at hown
    have hempty : directory = [] → y.content = "" := by
      rintro rfl
      obtain rfl := Option.some.inj hy
      exact hcontent
    obtain ⟨hpath, hiff⟩ := initial_of_liesIn_own hempty hown h
    exact ⟨y, file.2, hy, hpath ▸ hfile, hiff⟩
  | cons name rest =>
    have htext : anyHasText y.children = true := by
      have hmtext : m.hasText = true := hasText_of_ownFile? (by simp) hown
      have hyNamed := (wellNamed_of_moduleAt? hroot hy).1
      obtain ⟨p, x, hx, hxcontent⟩ :=
        (hasText_iff (wellNamed_of_moduleAt? hyNamed hm).1).1 hmtext
      refine (anyHasText_iff_below hyNamed).2 ⟨name :: rest ++ p, x, ?_, by simp, hxcontent⟩
      rw [moduleAt?_append, hm]
      exact hx
    obtain ⟨text, hinitial, hiff⟩ := exists_initial htext hasTarget directory
    have hmem := (mem_files_save hroot hcontent hasTarget _).2 ⟨directory, y, hy, hinitial⟩
    exact ⟨y, text, hy, hmem, hiff⟩

theorem liesIn_filePath_append (p : List String) (name : String) (rest : List String)
    (m : StubModule) : LiesIn p (filePath (p ++ name :: rest) m) := by
  rw [liesIn_filePath]
  split
  · rw [dropLast_append_of_ne_nil (by simp)]
    exact prefix_append _ _
  · exact prefix_append _ _

theorem save_needed (hroot : WellNamed root) (hcontent : root.content = "")
    (hfile : file ∈ (root.save { hasTarget := hasTarget }).files) :
    (∃ p m, root.moduleAt? p = some m ∧ m.content ≠ "" ∧ file = (filePath p m, m.fileText)) ∨
      ∃ directory, file = (directory ++ [initialFile], "") ∧
        (directory = [] ∨ ∃ p m, root.moduleAt? p = some m ∧ m.content ≠ "" ∧
          LiesIn directory (filePath p m)) := by
  obtain ⟨p, m, hm, hown⟩ := (mem_files_save hroot hcontent hasTarget file).1 hfile
  rcases ownFile?_eq_some.1 hown with ⟨htext, rfl⟩ | ⟨-, hmarks, rfl⟩
  · exact .inl ⟨p, m, hm, htext, rfl⟩
  · refine .inr ⟨p, rfl, ?_⟩
    by_cases hp : p = []
    · exact .inl hp
    · rw [marksDirectory_eq hp, anyHasText_iff_below (wellNamed_of_moduleAt? hroot hm).1] at hmarks
      obtain ⟨rest, x, hx, hne, hxcontent⟩ := hmarks
      obtain ⟨name, rest, rfl⟩ := exists_cons_of_ne_nil hne
      refine .inr ⟨p ++ name :: rest, x, ?_, hxcontent, liesIn_filePath_append p name rest x⟩
      rw [moduleAt?_append, hm]
      exact hx

theorem filePath_injective (hroot : WellNamed root) (hcontent : root.content = "")
    {p p' : List String} {m m' : StubModule} (hm : root.moduleAt? p = some m)
    (hm' : root.moduleAt? p' = some m') (htext : m.content ≠ "") (htext' : m'.content ≠ "")
    (h : filePath p m = filePath p' m') : p = p' := by
  have hplace : ∀ {q x}, root.moduleAt? q = some x → x.content ≠ "" →
      ∃ directory name, q = directory ++ [name] ∧ name ++ extension ≠ initialFile := by
    intro q x hx hxtext
    have hq : q ≠ [] := by
      rintro rfl
      obtain rfl := Option.some.inj hx
      exact hxtext hcontent
    obtain ⟨directory, name, rfl⟩ := (eq_nil_or_concat q).resolve_left hq
    have hname := (wellNamed_of_moduleAt? hroot hx).2 name (by simp)
    exact ⟨directory, name, by simp, fun h => hname.notInitial (by simpa [initialFile] using h)⟩
  obtain ⟨directory, name, rfl, hne⟩ := hplace hm htext
  obtain ⟨directory', name', rfl, hne'⟩ := hplace hm' htext'
  rw [filePath, filePath] at h
  split at h <;> split at h
  · simpa using h
  · exact absurd (by simpa using (append_inj' h rfl).2) hne
  · exact absurd (by simpa using (append_inj' h rfl).2.symm) hne'
  · exact append_cancel_right h

theorem exists_dot_of_ownFile? {marks : Bool} (h : ownFile? marks p m = some file) :
    ∃ name ∈ file.1, '.' ∈ name.toList := by
  have hdot : ∀ stem, '.' ∈ (stem ++ extension).toList := by
    intro stem
    rw [String.toList_append, mem_append]
    exact .inr (by decide)
  rcases ownFile?_eq_some.1 h with ⟨-, rfl⟩ | ⟨-, -, rfl⟩
  · dsimp only
    rw [filePath]
    split
    · exact ⟨p.getLastD "" ++ extension, by simp, hdot _⟩
    · exact ⟨initialFile, by simp, hdot initialStem⟩
  · exact ⟨initialFile, by simp, hdot initialStem⟩

theorem save_unblocked (hroot : WellNamed root) (hcontent : root.content = "")
    {file other : List String × String}
    (hfile : file ∈ (root.save { hasTarget := hasTarget }).files)
    (hother : other ∈ (root.save { hasTarget := hasTarget }).files) :
    ¬ LiesIn file.1 other.1 := by
  intro h
  obtain ⟨p, m, -, hown⟩ := (mem_files_save hroot hcontent hasTarget file).1 hfile
  obtain ⟨q, x, hx, hown'⟩ := (mem_files_save hroot hcontent hasTarget other).1 hother
  obtain ⟨name, hname, hdot⟩ := exists_dot_of_ownFile? hown
  have hmem : name ∈ q := (prefix_of_liesIn hown' h).subset hname
  exact ((wellNamed_of_moduleAt? hroot hx).2 name hmem).undotted hdot

end

/-- A tree of well named modules, whose root has no name and no text, is saved as a package tree
into an empty target directory, whether that was there before or not. -/
theorem save_isPackageTree (root : StubModule) (hcontent : root.content = "")
    (hroot : WellNamed root) (hasTarget : Bool) :
    IsPackageTree root (root.save { hasTarget := hasTarget }).files where
  single := nodup_files_save hroot hcontent hasTarget
  written p m hm htext := (mem_files_save hroot hcontent hasTarget _).2
    ⟨p, m, hm, ownFile?_eq_some.2 (.inl ⟨htext, rfl⟩)⟩
  apart _ _ _ _ hm hm' htext htext' h := filePath_injective hroot hcontent hm hm' htext htext' h
  marked _ _ hfile h := save_marked hroot hcontent hfile h
  needed _ hfile := save_needed hroot hcontent hfile
  unblocked _ hfile _ hother := save_unblocked hroot hcontent hfile hother

/-- A package without text above a package with text, a forced package and a module without
text. -/
theorem save_isPackageTree_nested :
    let root : StubModule := .node "" .empty false [
      ("FreeCAD", .node "" .empty false [
        ("Base", .node "class Unit: ...\n" .empty false [("Vector", .leaf "x: int\n" [])])]),
      ("Part", .node "def show(): ...\n" .empty true []),
      ("Units", .empty)]
    root.content = "" ∧ WellNamed root ∧
      IsPackageTree root (root.save { hasTarget := true }).files := by
  have hleaf : ∀ (content : String) (imports : NameSet) (isPackage : Bool),
      WellNamed (.node content imports isPackage []) :=
    fun _ _ _ => .node (by decide) (by simp) (by simp)
  have hbase : WellNamed (.node "class Unit: ...\n" .empty false
      [("Vector", .leaf "x: int\n" [])]) :=
    .node (by decide) (by decide) (forall_mem_singleton.2 (hleaf _ _ _))
  have hroot : WellNamed (.node "" .empty false [
      ("FreeCAD", .node "" .empty false [
        ("Base", .node "class Unit: ...\n" .empty false [("Vector", .leaf "x: int\n" [])])]),
      ("Part", .node "def show(): ...\n" .empty true []),
      ("Units", .empty)]) := by
    refine .node (by decide) (by decide) ?_
    simp only [forall_mem_cons]
    exact ⟨.node (by decide) (by decide) (forall_mem_singleton.2 hbase), hleaf _ _ _,
      hleaf _ _ _, by simp⟩
  exact ⟨rfl, hroot, save_isPackageTree _ rfl hroot true⟩

end BindingStubs.StubModule
