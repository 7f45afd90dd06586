import BindingStubs.Proofs.Text.Infix
import BindingStubs.Proofs.Text.Order
import BindingStubs.Proofs.Text.Search
import BindingStubs.Stub.Imports

set_option autoImplicit false

/-! # Lines of the import block -/

namespace BindingStubs

open List

theorem Text.Within.append {part t : String} (h : Within part t) (front back : String) :
    Within part (front ++ t ++ back) := by
  rw [Within, String.toList_append, String.toList_append]
  exact List.IsInfix.trans h (infix_append _ _ _)

theorem Text.sorted_perm {texts others : List String} (h : texts.Perm others) :
    sorted texts = sorted others := by
  have hordered (texts : List String) : (sorted texts).Pairwise (· ≤ ·) := by
    refine (pairwise_mergeSort (fun a b c => ?_) (fun a b => ?_) _).imp precedes_iff.1
    · simp only [precedes_iff]
      exact le_trans
    · simp only [Bool.or_eq_true, precedes_iff]
      exact le_total a b
  refine List.Perm.eq_of_pairwise (fun a b _ _ => le_antisymm) (hordered _) (hordered _) ?_
  exact (mergeSort_perm _ _).trans (h.trans (mergeSort_perm _ _).symm)

namespace StubModule

namespace ImportLine

def text : ImportLine → String
  | standard line | other line | declaration line => line

def isDeclaration : ImportLine → Bool
  | declaration _ => true
  | _ => false

def isStandard : ImportLine → Bool
  | standard _ => true
  | _ => false

/-- A line shows an entry: the entry stands in it, and the line is not empty. -/
def Shows (line : ImportLine) (entry : String) : Prop :=
  Text.Within entry line.text ∧ line.text ≠ ""

end ImportLine

theorem shows_placed {entry line : String} (moduleName : String) (hentry : Text.Within entry line)
    (hline : line ≠ "") : (placed moduleName line).Shows entry := by
  rw [placed]
  split
  · exact ⟨hentry, hline⟩
  · exact ⟨hentry, hline⟩

theorem importLine_shows (entry : String) : (importLine entry).Shows entry := by
  have hself : Text.Within entry entry := .refl entry
  have hne {part : String} (hpart : part ≠ "") (h : Text.contains entry part = true) :
      entry ≠ "" := by
    rintro rfl
    exact hpart (by simpa using Chars.contains_iff_infix.1 h)
  rw [importLine]
  split
  · next h =>
    refine shows_placed _ hself ?_
    rintro rfl
    exact absurd h (by decide)
  split
  · exact ⟨hself.append "\n" "\n", by simp [ImportLine.text]⟩
  split
  · next h =>
    simp only [declaresType, Bool.or_eq_true] at h
    exact ⟨hself, h.elim (·.elim (hne (by decide)) (hne (by decide))) (hne (by decide))⟩
  split
  · next moduleName _ =>
    refine shows_placed _ ?_ (by simp)
    simpa using hself.append ("import " ++ moduleName ++ " as ") ""
  split
  · next h => exact shows_placed _ hself (hne (by decide) h)
  · refine shows_placed _ ?_ (by simp)
    simpa using hself.append "import " ""

/-- An entry defines a type: it has several lines or speaks of an alias, a variable or a dictionary
of types, and imports nothing from a module. -/
structure DefinesType (entry : String) : Prop where
  notFrom : ¬ "from ".toList <+: entry.toList
  defines : ∃ mark ∈ ["\n", "TypeAlias", "TypeVar", "TypedDict"], Text.Within mark entry

/-- The module that is imported or imported from. An alias stands for its module. -/
def importedModule (entry : String) : String :=
  if Text.startsWith entry "from " then Text.before (Text.dropStart entry "from ") " "
  else Naming.canonical entry

theorem importedModule_from {name : String} (hname : ' ' ∉ name.toList) (rest : String) :
    importedModule ("from " ++ name ++ " " ++ rest) = name := by
  have htext : ("from " ++ name ++ " " ++ rest).toList =
      "from ".toList ++ (name.toList ++ ' ' :: rest.toList) := by
    simp
  have hfrom : "from ".toList.isPrefixOf
      ("from ".toList ++ (name.toList ++ ' ' :: rest.toList)) = true := by
    simp
  rw [importedModule, Text.startsWith, Text.before, Text.cutFirst?, Text.dropStart, htext,
    Chars.startsWith, if_pos hfrom, Chars.dropStart, if_pos hfrom, drop_left,
    String.toList_ofList]
  change ((Chars.cutFirst? _ [' ']).map _ |>.map Prod.fst).getD _ = _
  rw [Chars.cutFirst?_of_notMem hname]
  simp

theorem isStandard_placed (moduleName line : String) :
    (placed moduleName line).isDeclaration = false ∧
      ((placed moduleName line).isStandard = true ↔ moduleName ∈ standardModules) := by
  rw [placed, isStandardModule, contains_eq_mem]
  by_cases h : moduleName ∈ standardModules <;>
    simp [h, ImportLine.isDeclaration, ImportLine.isStandard]

theorem importLine_block (entry : String) :
    ((importLine entry).isDeclaration = true ↔ DefinesType entry) ∧
      ((importLine entry).isStandard = true ↔
        ¬ DefinesType entry ∧ importedModule entry ∈ standardModules) := by
  have hplaced {moduleName line : String} (hdefines : ¬ DefinesType entry)
      (hmodule : importedModule entry = moduleName) :
      ((placed moduleName line).isDeclaration = true ↔ DefinesType entry) ∧
        ((placed moduleName line).isStandard = true ↔
          ¬ DefinesType entry ∧ importedModule entry ∈ standardModules) := by
    obtain ⟨hdeclaration, hstandard⟩ := isStandard_placed moduleName line
    rw [hdeclaration, hstandard, hmodule]
    exact ⟨by simp [hdefines], by simp [hdefines]⟩
  have hdeclared {text : String} (hdefines : DefinesType entry) :
      ((ImportLine.declaration text).isDeclaration = true ↔ DefinesType entry) ∧
        ((ImportLine.declaration text).isStandard = true ↔
          ¬ DefinesType entry ∧ importedModule entry ∈ standardModules) :=
    ⟨iff_of_true rfl hdefines, iff_of_false (by simp [ImportLine.isStandard]) fun h => h.1 hdefines⟩
  rw [importLine]
  split
  · next hfrom =>
    have hstarts := isPrefixOf_iff_prefix.1 hfrom
    exact hplaced (fun h => h.notFrom hstarts) (if_pos hfrom)
  next hfrom =>
  have hnot : ¬ "from ".toList <+: entry.toList := mt isPrefixOf_iff_prefix.2 hfrom
  split
  · next hline => exact hdeclared ⟨hnot, "\n", by simp, Chars.contains_iff_infix.1 hline⟩
  next hline =>
  split
  · next hmark =>
    simp only [declaresType, Bool.or_eq_true, Text.contains, Chars.contains_iff_infix] at hmark
    refine hdeclared ⟨hnot, ?_⟩
    rcases hmark with (h | h) | h
    · exact ⟨_, by simp, h⟩
    · exact ⟨"TypeVar", by simp, h⟩
    · exact ⟨"TypedDict", by simp, h⟩
  next hmark =>
  have hdefines : ¬ DefinesType entry := by
    rintro ⟨-, mark, hmem, hwithin⟩
    have hcontains := Chars.contains_iff_infix.2 hwithin
    simp only [declaresType, Text.contains, Bool.or_eq_true, not_or] at hmark hline
    simp only [mem_cons, not_mem_nil, or_false] at hmem
    rcases hmem with rfl | rfl | rfl | rfl
    · exact hline hcontains
    · exact hmark.1.1 hcontains
    · exact hmark.1.2 hcontains
    · exact hmark.2 hcontains
  have hmodule : importedModule entry = Naming.canonical entry := if_neg hfrom
  split
  · next halias => exact hplaced hdefines (by rw [hmodule, Naming.canonical, halias]; rfl)
  · next halias => exact hplaced hdefines (by rw [hmodule, Naming.canonical, halias]; rfl)

structure ImportBlocks where
  standard : List String
  other : List String
  declared : List String

namespace ImportBlocks

def lines (b : ImportBlocks) : List ImportLine :=
  b.standard.map .standard ++ b.other.map .other ++ b.declared.map .declaration

/-- Lines stand below one another in their block. Blocks without lines are left out, an empty line
stands between two blocks, and two stand after the last one. -/
def text (b : ImportBlocks) : String :=
  match [b.standard, b.other, b.declared].filter (· ≠ []) with
  | [] => ""
  | blocks => Text.join "\n\n" (blocks.map (Text.join "\n")) ++ "\n\n\n"

/-- The blocks of some lines: two are sorted, and declarations stay in their order. -/
def ofLines (lines : List ImportLine) : ImportBlocks where
  standard := Text.sorted (standardLines lines)
  other := Text.sorted (otherLines lines)
  declared := declarationLines lines

theorem lines_ofLines (lines : List ImportLine) : (ofLines lines).lines.Perm lines := by
  have hsorted : (ofLines lines).lines.Perm ((standardLines lines).map .standard ++
      (otherLines lines).map .other ++ (declarationLines lines).map .declaration) :=
    (((mergeSort_perm _ _).map _).append ((mergeSort_perm _ _).map _)).append_right _
  refine hsorted.trans ?_
  clear hsorted
  induction lines with
  | nil => exact .nil
  | cons line lines ih =>
    cases line with
    | standard line => exact ih.cons _
    | other line =>
      refine (List.Perm.append_right _ perm_middle).trans (ih.cons _)
    | declaration line => exact perm_middle.trans (ih.cons _)

theorem join_eq_empty_iff {lines : List String} (h : ∀ line ∈ lines, line ≠ "") :
    Text.join "\n" lines = "" ↔ lines = [] := by
  cases lines with
  | nil => exact iff_of_true rfl rfl
  | cons line lines =>
    refine iff_of_false ?_ (cons_ne_nil _ _)
    have hline : line ≠ "" := h line mem_cons_self
    cases lines <;> simp [Text.join, hline]

theorem importBlock_eq_text (imports : List String) :
    importBlock imports = (ofLines (imports.map importLine)).text := by
  have hline : ∀ line ∈ (ofLines (imports.map importLine)).lines, line.text ≠ "" := by
    intro line hline
    obtain ⟨entry, -, rfl⟩ := mem_map.1 ((lines_ofLines _).mem_iff.1 hline)
    exact (importLine_shows entry).2
  rw [importBlock, text]
  dsimp only [ofLines] at hline ⊢
  generalize Text.sorted (standardLines (imports.map importLine)) = standard at hline ⊢
  generalize Text.sorted (otherLines (imports.map importLine)) = other at hline ⊢
  generalize declarationLines (imports.map importLine) = declared at hline ⊢
  have hblock : ∀ block ∈ [standard, other, declared], ∀ line ∈ block, line ≠ "" := by
    simp only [lines, mem_append, mem_map] at hline
    intro block hblock line hmem
    simp only [mem_cons, not_mem_nil, or_false] at hblock
    rcases hblock with rfl | rfl | rfl
    · exact hline (.standard line) (.inl (.inl ⟨line, hmem, rfl⟩))
    · exact hline (.other line) (.inl (.inr ⟨line, hmem, rfl⟩))
    · exact hline (.declaration line) (.inr ⟨line, hmem, rfl⟩)
  have hfilter : [Text.join "\n" standard, Text.join "\n" other, Text.join "\n" declared].filter
      (fun block => !block.isEmpty) =
      ([standard, other, declared].filter (· ≠ [])).map (Text.join "\n") := by
    rw [← map_singleton, ← map_cons, ← map_cons, filter_map]
    refine congrArg _ (filter_congr fun block hmem => ?_)
    rw [Function.comp_apply, decide_not, Bool.not_inj_iff, Bool.eq_iff_iff, String.isEmpty_iff,
      decide_eq_true_iff]
    exact join_eq_empty_iff (hblock block hmem)
  rw [hfilter]
  cases [standard, other, declared].filter (· ≠ []) with
  | nil => rfl
  | cons block blocks => rfl

theorem ofLines_congr {entries others : List String} (h : entries.Perm others)
    (horder : entries.filter (fun entry => (importLine entry).isDeclaration) =
      others.filter fun entry => (importLine entry).isDeclaration) :
    ofLines (entries.map importLine) = ofLines (others.map importLine) := by
  have hdeclared (entries : List String) : declarationLines (entries.map importLine) =
      declarationLines ((entries.filter fun entry => (importLine entry).isDeclaration).map
        importLine) := by
    rw [declarationLines, declarationLines, filterMap_map, filterMap_map,
      filterMap_filter]
    refine filterMap_congr fun entry _ => ?_
    rw [Function.comp]
    cases importLine entry <;> rfl
  rw [ofLines, ofLines, hdeclared, horder, ← hdeclared]
  congr 1
  · exact Text.sorted_perm ((h.map _).filterMap _)
  · exact Text.sorted_perm ((h.map _).filterMap _)

end ImportBlocks

/-- Each entry of a set of imports is printed as one line that shows it, in one of three blocks:
that of types if it defines one, and else that of the standard library if its module belongs there.
What is printed does not hang on the order in which the same entries came in, if declarations came
in in the same order. -/
theorem importBlock_prints_entries (imports : NameSet) :
    (∃ blocks : ImportBlocks, importBlock imports.toList = blocks.text ∧
      blocks.lines.Perm (imports.toList.map importLine)) ∧
    (∀ entry, (importLine entry).Shows entry) ∧
    (∀ entry, ((importLine entry).isDeclaration = true ↔ DefinesType entry) ∧
      ((importLine entry).isStandard = true ↔
        ¬ DefinesType entry ∧ importedModule entry ∈ standardModules)) ∧
    (∀ name rest, ' ' ∉ name.toList → importedModule ("from " ++ name ++ " " ++ rest) = name) ∧
    ∀ others : NameSet, (∀ entry, entry ∈ others.toList ↔ entry ∈ imports.toList) →
      others.toList.filter (fun entry => (importLine entry).isDeclaration) =
        imports.toList.filter (fun entry => (importLine entry).isDeclaration) →
      importBlock others.toList = importBlock imports.toList := by
  refine ⟨⟨_, ImportBlocks.importBlock_eq_text _, ImportBlocks.lines_ofLines _⟩, importLine_shows,
    importLine_block, fun _ rest hname => importedModule_from hname rest, ?_⟩
  intro others hsame horder
  have hperm : others.toList.Perm imports.toList :=
    (perm_ext_iff_of_nodup others.nodup imports.nodup).2 hsame
  rw [ImportBlocks.importBlock_eq_text, ImportBlocks.importBlock_eq_text,
    ImportBlocks.ofLines_congr hperm horder]

/-- Entries of all shapes in two orders. -/
theorem importBlock_prints_entries_reordered :
    importBlock ["typing", "X: typing.TypeAlias = int", "MeshModule", "from enum import Enum"] =
      importBlock ["from enum import Enum", "MeshModule", "X: typing.TypeAlias = int", "typing"] := by
  exact (importBlock_prints_entries (.ofList
    ["from enum import Enum", "MeshModule", "X: typing.TypeAlias = int", "typing"])).2.2.2.2 (.ofList
    ["typing", "X: typing.TypeAlias = int", "MeshModule", "from enum import Enum"])
    (by intro entry; simp [OrderedSet.toList_ofList]; grind) (by decide)

end StubModule

end BindingStubs
