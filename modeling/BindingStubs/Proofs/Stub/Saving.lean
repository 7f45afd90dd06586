import BindingStubs.Proofs.Text.Search
import BindingStubs.Stub.Imports

set_option autoImplicit false

/-! # Saving a tree of modules -/

namespace BindingStubs

open List

namespace StubFiles

variable {fs : StubFiles} {path : List String}

section
variable (h : ∀ file ∈ fs.files, file.1 ≠ path)
include h

theorem any_eq_false :
    fs.files.any (fun entry => entry.1 == path) = false := by
  simpa using h

theorem write_eq (text : String) :
    fs.write path text = { fs with files := fs.files ++ [(path, text)] } := by
  rw [write, any_eq_false h]
  rfl

theorem touch_eq :
    fs.touch path = { fs with files := fs.files ++ [(path, "")] } := by
  rw [touch, any_eq_false h]
  rfl

theorem write_touch (text : String) :
    (fs.touch path).write path text = { fs with files := fs.files ++ [(path, text)] } := by
  have hkeep : ∀ entry ∈ fs.files, (if entry.1 = path then (path, text) else entry) = entry :=
    fun entry hentry => if_neg (h entry hentry)
  rw [touch_eq h, write]
  simp [map_congr_left hkeep]

end

end StubFiles

namespace StubModule

structure IsFileName (name : String) : Prop where
  nonempty : name ≠ ""
  undotted : '.' ∉ name.toList
  unslashed : '/' ∉ name.toList
  notInitial : name ≠ initialStem

instance (name : String) : Decidable (IsFileName name) :=
  decidable_of_iff (name ≠ "" ∧ '.' ∉ name.toList ∧ '/' ∉ name.toList ∧ name ≠ initialStem)
    ⟨fun ⟨h₁, h₂, h₃, h₄⟩ => ⟨h₁, h₂, h₃, h₄⟩, fun ⟨h₁, h₂, h₃, h₄⟩ => ⟨h₁, h₂, h₃, h₄⟩⟩

/-- Submodules have file names, different ones for siblings. -/
inductive WellNamed : StubModule → Prop
  | node {content : String} {imports : NameSet} {isPackage : Bool}
      {children : List (String × StubModule)} (distinct : (children.map Prod.fst).Nodup)
      (named : ∀ entry ∈ children, IsFileName entry.1)
      (below : ∀ entry ∈ children, WellNamed entry.2) :
      WellNamed (.node content imports isPackage children)

theorem WellNamed.distinct {m : StubModule} (h : WellNamed m) : (m.children.map Prod.fst).Nodup := by
  cases h
  assumption

theorem WellNamed.named {m : StubModule} (h : WellNamed m) :
    ∀ entry ∈ m.children, IsFileName entry.1 := by
  cases h
  assumption

theorem WellNamed.child {m : StubModule} (h : WellNamed m) :
    ∀ entry ∈ m.children, WellNamed entry.2 := by
  cases h
  assumption

mutual

def hasText : StubModule → Bool
  | .node content _ _ children => !content.isEmpty || anyHasText children

def anyHasText : List (String × StubModule) → Bool
  | [] => false
  | (_, m) :: rest => m.hasText || anyHasText rest

end

def filePath (place : List String) (m : StubModule) : List String :=
  if m.children.isEmpty && !m.isPackage then
    place.dropLast ++ [place.getLastD "" ++ extension]
  else place ++ [initialFile]

/-- The file that a module itself gives rise to; one without text only marks its directory. -/
def ownFile? (marks : Bool) (place : List String) (m : StubModule) :
    Option (List String × String) :=
  if !m.content.isEmpty then some (filePath place m, m.fileText)
  else if marks then some (place ++ [initialFile], "") else none

theorem ownFile?_eq_some {marks : Bool} {place : List String} {m : StubModule}
    {file : List String × String} :
    ownFile? marks place m = some file ↔
      m.content ≠ "" ∧ file = (filePath place m, m.fileText) ∨
        m.content = "" ∧ marks = true ∧ file = (place ++ [initialFile], "") := by
  rw [ownFile?]
  by_cases hcontent : m.content = ""
  · cases marks <;> simp [hcontent, @eq_comm _ file]
  · simp [hcontent, @eq_comm _ file]

mutual

/-- The files of a module and of all modules below it, in the order in which they are made. -/
def laidOut : StubModule → (place : List String) → List (List String × String)
  | .node content imports isPackage children, place =>
    laidOutAll children place ++
      (ownFile? (anyHasText children) place (.node content imports isPackage children)).toList

def laidOutAll : List (String × StubModule) → (place : List String) → List (List String × String)
  | [], _ => []
  | (name, m) :: rest, place => laidOut m (place ++ [name]) ++ laidOutAll rest place

end

theorem nameParts_eq {name : String} (h : IsFileName name) : nameParts name = [name] := by
  have hsplit : Text.split name "/" = [name] := by
    have hjoin : Text.join "/" [name] = name := by simp [Text.join]
    have hname : ∀ piece ∈ [name], '/' ∉ piece.toList := by simpa using h.unslashed
    rw [← hjoin, Text.split_join rfl (by simp) hname, hjoin]
  rw [nameParts, hsplit]
  simp [h.nonempty]

variable {m : StubModule}

theorem filePath_of_children (h : m.children.isEmpty = false) (place : List String) :
    filePath place m = place ++ [initialFile] := by
  rw [filePath, h]
  rfl

variable {place : List String}

theorem saveText_eq (hplace : place ≠ [] ∨ m.content.isEmpty = true) (fs : StubFiles) :
    saveText m place fs =
      if m.content.isEmpty then fs else fs.write (filePath place m) m.fileText := by
  rw [saveText]
  split
  · rfl
  · next hcontent =>
    have hne : place ≠ [] := hplace.resolve_right (by simpa using hcontent)
    obtain ⟨directory, name, rfl⟩ := (eq_nil_or_concat place).resolve_left hne
    cases hplain : m.children.isEmpty && !m.isPackage with
    | true =>
      have hkind : (!m.children.isEmpty || m.isPackage) = false := by
        revert hplain
        cases m.children.isEmpty <;> cases m.isPackage <;> simp
      simp [hkind, fileFor, filePath, hplain]
    | false =>
      have hkind : (!m.children.isEmpty || m.isPackage) = true := by
        revert hplain
        cases m.children.isEmpty <;> cases m.isPackage <;> simp
      simp [hkind, fileFor, filePath, hplain, initialFile]

theorem saveText_marked {below : StubFiles} {marks : Bool}
    (hplace : place ≠ [] ∨ m.content.isEmpty = true)
    (hmarks : marks = true → m.children.isEmpty = false)
    (hinitial : ∀ file ∈ below.files, file.1 ≠ place ++ [initialFile])
    (hfile : ∀ file ∈ below.files, file.1 ≠ filePath place m) :
    saveText m place (if marks then below.touch (place ++ [initialFile]) else below) =
      { below with files := below.files ++ (ownFile? marks place m).toList } := by
  rw [saveText_eq hplace, ownFile?]
  cases m.content.isEmpty with
  | true =>
    cases marks with
    | true => exact StubFiles.touch_eq hinitial
    | false => simp
  | false =>
    cases marks with
    | true =>
      rw [filePath_of_children (hmarks rfl)]
      exact StubFiles.write_touch hinitial _
    | false => exact StubFiles.write_eq hfile _

/-- A path of the module with a name in a directory, or of a module below it. -/
def Belongs (directory : List String) (name : String) (path : List String) : Prop :=
  path = directory ++ [name ++ extension] ∨
    ∃ next rest, path = directory ++ name :: next :: rest

theorem Belongs.name_eq {directory path : List String} {name other : String}
    (h : Belongs directory name path) (h' : Belongs directory other path) : name = other := by
  rcases h with rfl | ⟨next, rest, rfl⟩ <;> rcases h' with h' | ⟨next', rest', h'⟩
  · simpa using h'
  · simp at h'
  · simp at h'
  · simp at h'
    exact h'.1

theorem Belongs.ne_initial {directory path : List String} {name : String} (hname : IsFileName name)
    (h : Belongs directory name path) : path ≠ directory ++ [initialFile] := by
  rintro rfl
  rcases h with h | ⟨next, rest, h⟩
  · have hinitial : initialStem = name := by simpa [initialFile] using h
    exact hname.notInitial hinitial.symm
  · simp at h

variable {children : List (String × StubModule)} {file : List String × String}

theorem mem_laidOutAll :
    file ∈ laidOutAll children place ↔
      ∃ entry ∈ children, file ∈ laidOut entry.2 (place ++ [entry.1]) := by
  induction children with
  | nil => simp [laidOutAll]
  | cons entry children ih =>
    obtain ⟨name, m⟩ := entry
    rw [laidOutAll, mem_append, ih]
    simp

theorem belongs_initial (directory : List String) (name : String) :
    Belongs directory name (directory ++ [name] ++ [initialFile]) :=
  .inr ⟨initialFile, [], by simp⟩

theorem belongs_filePath (directory : List String) (name : String) (m : StubModule) :
    Belongs directory name (filePath (directory ++ [name]) m) := by
  rw [filePath]
  split
  · exact .inl (by simp)
  · exact belongs_initial directory name

theorem belongs_of_ownFile? {marks : Bool} {directory : List String} {name : String}
    (h : ownFile? marks (directory ++ [name]) m = some file) : Belongs directory name file.1 := by
  rcases ownFile?_eq_some.1 h with ⟨-, rfl⟩ | ⟨-, -, rfl⟩
  · exact belongs_filePath directory name m
  · exact belongs_initial directory name

theorem belongs_of_mem_laidOut (hm : WellNamed m) (directory : List String) (name : String)
    (h : file ∈ laidOut m (directory ++ [name])) : Belongs directory name file.1 := by
  induction hm generalizing directory name with
  | node distinct named below ih =>
    rw [laidOut, mem_append, mem_laidOutAll, Option.mem_toList] at h
    rcases h with ⟨entry, hentry, h⟩ | h
    · rcases ih entry hentry _ _ h with h | ⟨next, rest, h⟩
      · exact .inr ⟨entry.1 ++ extension, [], by simpa using h⟩
      · exact .inr ⟨entry.1, next :: rest, by simpa using h⟩
    · exact belongs_of_ownFile? h

mutual

theorem laidOut_eq_nil_iff (m : StubModule) (place : List String) :
    laidOut m place = [] ↔ m.hasText = false := by
  cases m with
  | node content imports isPackage children =>
    rw [laidOut, append_eq_nil_iff, laidOutAll_eq_nil_iff children place, hasText,
      Bool.or_eq_false_iff, and_comm, ownFile?]
    by_cases hcontent : content.isEmpty = true <;> cases anyHasText children <;>
      simp_all [StubModule.content]

theorem laidOutAll_eq_nil_iff (children : List (String × StubModule)) (place : List String) :
    laidOutAll children place = [] ↔ anyHasText children = false := by
  cases children with
  | nil => simp [laidOutAll, anyHasText]
  | cons entry children =>
    obtain ⟨name, m⟩ := entry
    rw [laidOutAll, append_eq_nil_iff, laidOut_eq_nil_iff m, laidOutAll_eq_nil_iff children,
      anyHasText, Bool.or_eq_false_iff]

end

theorem isEmpty_of_anyHasText (h : anyHasText children = true) : children.isEmpty = false := by
  cases children with
  | nil => cases h
  | cons => rfl

theorem hasDirectory_eq {fs : StubFiles} (hchildren : ∀ entry ∈ children, WellNamed entry.2)
    (hfresh : ∀ file ∈ fs.files, ∀ next rest, file.1 ≠ place ++ next :: rest) :
    ({ fs with files := fs.files ++ laidOutAll children place } : StubFiles).hasDirectory place =
      (place.isEmpty && fs.hasTarget || anyHasText children) := by
  have hbefore : fs.files.any (fun entry => place.length < entry.1.length &&
      place.isPrefixOf entry.1) = false := by
    rw [List.any_eq_false]
    rintro file hfile hunder
    rw [Bool.and_eq_true, decide_eq_true_eq, isPrefixOf_iff_prefix] at hunder
    obtain ⟨hlength, rest, hrest⟩ := hunder
    cases rest with
    | nil => simp [← hrest] at hlength
    | cons next rest => exact hfresh file hfile next rest hrest.symm
  have hafter : (laidOutAll children place).any (fun entry => place.length < entry.1.length &&
      place.isPrefixOf entry.1) = anyHasText children := by
    cases htext : anyHasText children with
    | false => rw [(laidOutAll_eq_nil_iff children _).2 htext]; rfl
    | true =>
      have hne : laidOutAll children place ≠ [] := by
        rw [Ne, laidOutAll_eq_nil_iff, htext]
        simp
      obtain ⟨file, hfile⟩ := exists_mem_of_ne_nil _ hne
      rw [any_eq_true]
      refine ⟨file, hfile, ?_⟩
      obtain ⟨entry, hentry, hmem⟩ := mem_laidOutAll.1 hfile
      rcases belongs_of_mem_laidOut (hchildren entry hentry) _ _ hmem with h | ⟨next, rest, h⟩ <;>
        simp [h]
  rw [StubFiles.hasDirectory, any_append, hbefore, hafter, Bool.false_or]

theorem saveAll_eq (distinct : (children.map Prod.fst).Nodup)
    (named : ∀ entry ∈ children, IsFileName entry.1) (below : ∀ entry ∈ children, WellNamed entry.2)
    (hsave : ∀ entry ∈ children, ∀ (directory : List String) (name : String) (fs : StubFiles),
      (∀ file ∈ fs.files, ¬ Belongs directory name file.1) →
      entry.2.saveAt (directory ++ [name]) fs =
        { fs with files := fs.files ++ laidOut entry.2 (directory ++ [name]) })
    (place : List String) (fs : StubFiles)
    (hfresh : ∀ entry ∈ children, ∀ file ∈ fs.files, ¬ Belongs place entry.1 file.1) :
    saveAll children place fs = { fs with files := fs.files ++ laidOutAll children place } := by
  induction children generalizing fs with
  | nil => simp [saveAll, laidOutAll]
  | cons entry children ih =>
    obtain ⟨name, m⟩ := entry
    rw [forall_mem_cons] at named below hsave hfresh
    rw [map_cons, nodup_cons] at distinct
    rw [saveAll, nameParts_eq named.1, hsave.1 place name fs hfresh.1,
      ih distinct.2 named.2 below.2 hsave.2 _ ?_, laidOutAll, append_assoc]
    intro entry hentry file hfile hbelongs
    rcases mem_append.1 hfile with hfile | hfile
    · exact hfresh.2 entry hentry file hfile hbelongs
    · have hname : name = entry.1 := (belongs_of_mem_laidOut below.1 _ _ hfile).name_eq hbelongs
      exact distinct.1 (mem_map.2 ⟨entry, hentry, hname.symm⟩)

theorem ne_own_of_mem_laidOutAll (hm : WellNamed m) (h : file ∈ laidOutAll m.children place) :
    file.1 ≠ place ++ [initialFile] ∧ file.1 ≠ filePath place m := by
  obtain ⟨entry, hentry, hfile⟩ := mem_laidOutAll.1 h
  have hinitial : file.1 ≠ place ++ [initialFile] :=
    (belongs_of_mem_laidOut (hm.child entry hentry) _ _ hfile).ne_initial (hm.named entry hentry)
  rw [filePath_of_children (by simpa using ne_nil_of_mem hentry)]
  exact ⟨hinitial, hinitial⟩

/-- A module without text marks its directory if there is a file in it; the target directory is
also marked if it was there before. -/
def marksDirectory (hasTarget : Bool) (place : List String) (m : StubModule) : Bool :=
  !m.children.isEmpty && (place.isEmpty && hasTarget || anyHasText m.children)

theorem marksDirectory_eq {hasTarget : Bool} (h : place ≠ []) (m : StubModule) :
    marksDirectory hasTarget place m = anyHasText m.children := by
  rw [marksDirectory, show place.isEmpty = false by simpa using h]
  cases htext : anyHasText m.children with
  | true => simp [isEmpty_of_anyHasText htext]
  | false => simp

theorem saveAt_eq (hm : WellNamed m) (directory : List String) (name : String) (fs : StubFiles)
    (hfresh : ∀ file ∈ fs.files, ¬ Belongs directory name file.1) :
    m.saveAt (directory ++ [name]) fs =
      { fs with files := fs.files ++ laidOut m (directory ++ [name]) } := by
  induction hm generalizing directory name fs with
  | @node content imports isPackage children distinct named below ih =>
    -- A file of a submodule would be one of this module.
    have hfreshBelow : ∀ entry ∈ children, ∀ file ∈ fs.files,
        ¬ Belongs (directory ++ [name]) entry.1 file.1 := by
      rintro entry - file hfile (h | ⟨next, rest, h⟩)
      · exact hfresh file hfile (.inr ⟨entry.1 ++ extension, [], by simpa using h⟩)
      · exact hfresh file hfile (.inr ⟨entry.1, next :: rest, by simpa using h⟩)
    have hmarks : (!children.isEmpty && ((directory ++ [name]).isEmpty && fs.hasTarget ||
        anyHasText children)) = anyHasText children :=
      marksDirectory_eq (by simp) (.node content imports isPackage children)
    have hown : ∀ file ∈ laidOutAll children (directory ++ [name]),
        file.1 ≠ directory ++ [name] ++ [initialFile] ∧
          file.1 ≠ filePath (directory ++ [name]) (.node content imports isPackage children) :=
      fun file hfile => ne_own_of_mem_laidOutAll (.node distinct named below) hfile
    have hunder : ∀ file ∈ fs.files, ∀ next rest,
        file.1 ≠ directory ++ [name] ++ next :: rest := by
      intro file hfile next rest h
      exact hfresh file hfile (.inr ⟨next, rest, by simpa using h⟩)
    rw [saveAt, saveAll_eq distinct named below ih _ fs hfreshBelow, hasDirectory_eq below hunder,
      hmarks, saveText_marked (.inl (by simp)), laidOut, append_assoc]
    · exact isEmpty_of_anyHasText
    · intro file hfile heq
      rcases mem_append.1 hfile with hfile | hfile
      · exact hfresh file hfile (heq ▸ belongs_initial directory name)
      · exact (hown file hfile).1 heq
    · intro file hfile heq
      rcases mem_append.1 hfile with hfile | hfile
      · exact hfresh file hfile (heq ▸ belongs_filePath directory name _)
      · exact (hown file hfile).2 heq

theorem files_save {root : StubModule} (hroot : WellNamed root) (hcontent : root.content = "")
    (hasTarget : Bool) :
    (root.save { hasTarget := hasTarget }).files = laidOutAll root.children [] ++
      (ownFile? (marksDirectory hasTarget [] root) [] root).toList := by
  cases hroot with
  | @node content imports isPackage children distinct named below =>
    have hempty : (node content imports isPackage children).content.isEmpty = true := by
      rw [hcontent]
      rfl
    have hown : ∀ file ∈ laidOutAll children [], file.1 ≠ [] ++ [initialFile] ∧
        file.1 ≠ filePath [] (.node content imports isPackage children) :=
      fun file hfile => ne_own_of_mem_laidOutAll (.node distinct named below) hfile
    rw [save, saveAt, saveAll_eq distinct named below
      (fun entry hentry => saveAt_eq (below entry hentry)) [] _ (by simp),
      hasDirectory_eq below (by simp), saveText_marked (.inr hempty)]
    · rfl
    · intro hmarks
      exact (Bool.not_eq_true' _).mp (Bool.and_eq_true_iff.1 hmarks).1
    · exact fun file hfile => (hown file (by simpa using hfile)).1
    · exact fun file hfile => (hown file (by simpa using hfile)).2

theorem nodup_laidOutAll (distinct : (children.map Prod.fst).Nodup)
    (below : ∀ entry ∈ children, WellNamed entry.2)
    (hnodup : ∀ entry ∈ children, ∀ place, ((laidOut entry.2 place).map Prod.fst).Nodup)
    (place : List String) : ((laidOutAll children place).map Prod.fst).Nodup := by
  induction children with
  | nil => simp [laidOutAll]
  | cons entry children ih =>
    obtain ⟨name, m⟩ := entry
    rw [forall_mem_cons] at below hnodup
    rw [map_cons, nodup_cons] at distinct
    rw [laidOutAll, map_append, nodup_append]
    refine ⟨hnodup.1 _, ih distinct.2 below.2 hnodup.2, ?_⟩
    rintro path hfirst other hother rfl
    obtain ⟨file, hfile, rfl⟩ := mem_map.1 hfirst
    obtain ⟨file', hfile', heq⟩ := mem_map.1 hother
    obtain ⟨entry, hentry, hmem⟩ := mem_laidOutAll.1 hfile'
    have hbelongs := belongs_of_mem_laidOut (below.2 entry hentry) _ _ hmem
    have hname : name = entry.1 :=
      (belongs_of_mem_laidOut below.1 _ _ hfile).name_eq (heq ▸ hbelongs)
    exact distinct.1 (mem_map.2 ⟨entry, hentry, hname.symm⟩)

theorem nodup_append_ownFile? (hm : WellNamed m) {marks : Bool}
    (h : ((laidOutAll m.children place).map Prod.fst).Nodup) :
    ((laidOutAll m.children place ++ (ownFile? marks place m).toList).map Prod.fst).Nodup := by
  rw [map_append, nodup_append]
  refine ⟨h, ?_, ?_⟩
  · cases ownFile? marks place m <;> simp
  · rintro path hbelow other hown rfl
    obtain ⟨file, hfile, rfl⟩ := mem_map.1 hbelow
    obtain ⟨file', hfile', heq⟩ := mem_map.1 hown
    have hne := ne_own_of_mem_laidOutAll hm hfile
    rcases ownFile?_eq_some.1 (Option.mem_toList.1 hfile') with ⟨-, rfl⟩ | ⟨-, -, rfl⟩
    · exact hne.2 heq.symm
    · exact hne.1 heq.symm

theorem nodup_laidOut (hm : WellNamed m) (place : List String) :
    ((laidOut m place).map Prod.fst).Nodup := by
  induction hm generalizing place with
  | node distinct named below ih =>
    rw [laidOut]
    exact nodup_append_ownFile? (.node distinct named below)
      (nodup_laidOutAll distinct below ih place)

theorem nodup_files_save {root : StubModule} (hroot : WellNamed root) (hcontent : root.content = "")
    (hasTarget : Bool) : ((root.save { hasTarget := hasTarget }).files.map Prod.fst).Nodup := by
  rw [files_save hroot hcontent]
  refine nodup_append_ownFile? hroot (nodup_laidOutAll hroot.distinct hroot.child ?_ [])
  exact fun entry hentry => nodup_laidOut (hroot.child entry hentry)

end StubModule

end BindingStubs
