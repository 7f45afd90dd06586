import BindingStubs.Proofs.TypeExpr.Entries
import Mathlib.Data.List.Pairwise

set_option autoImplicit false

/-! # Alternatives of unions -/

namespace BindingStubs

open List

theorem Naming.IsDotted.ne_empty {s : String} (h : Naming.IsDotted s) : s ≠ "" := by
  cases h with
  | single h =>
    rintro rfl
    exact absurd h (by decide)
  | dot => simp

namespace TypeExpr

open Naming (IsDotted)

def parts (s : String) : List String := Text.split s " | "

def Barred (s : String) : Prop :=
  ∃ ps : List String, ps ≠ [] ∧ (∀ p ∈ ps, ' ' ∉ p.toList) ∧ s = Text.join " | " ps

theorem parts_join {ps : List String} (hne : ps ≠ []) (h : ∀ p ∈ ps, ' ' ∉ p.toList) :
    parts (Text.join " | " ps) = ps :=
  Text.split_join rfl hne h

theorem Barred.join_parts {s : String} (h : Barred s) :
    parts s ≠ [] ∧ (∀ p ∈ parts s, ' ' ∉ p.toList) ∧ s = Text.join " | " (parts s) := by
  obtain ⟨ps, hne, hblank, rfl⟩ := h
  rw [parts_join hne hblank]
  exact ⟨hne, hblank, rfl⟩

theorem join_flatMap_parts {texts : List String} (h : ∀ s ∈ texts, Barred s) :
    Text.join " | " texts = Text.join " | " (texts.flatMap parts) := by
  induction texts with
  | nil => rfl
  | cons s texts ih =>
    obtain ⟨hs, htexts⟩ := forall_mem_cons.1 h
    obtain ⟨hne, -, hjoin⟩ := hs.join_parts
    cases texts with
    | nil => simpa [Text.join] using hjoin
    | cons t texts =>
      have hrest : (t :: texts).flatMap parts ≠ [] := by
        simp [(htexts t mem_cons_self).join_parts.1]
      have happend : Text.join " | " (parts s ++ (t :: texts).flatMap parts) =
          Text.join " | " (parts s) ++ " | " ++ Text.join " | " ((t :: texts).flatMap parts) :=
        String.intercalate_append_of_ne_nil hne hrest
      rw [flatMap_cons, happend, ← ih htexts, ← hjoin]
      exact String.intercalate_cons_of_ne_nil (by simp)

theorem barred_of_blank_notMem {s : String} (h : ' ' ∉ s.toList) : Barred s :=
  ⟨[s], by simp, by simpa using h, by simp [Text.join]⟩

theorem parts_of_blank_notMem {s : String} (h : ' ' ∉ s.toList) : parts s = [s] := by
  have hjoin : Text.join " | " [s] = s := by simp [Text.join]
  rw [← hjoin, parts_join (by simp) (by simpa using h), hjoin]

theorem blank_notMem_printText {s : String} (h : ' ' ∉ s.toList) : ' ' ∉ (printText s).1.toList := by
  have hnames : ∀ name ∈ Naming.importedNames, name.toList.contains ' ' = false := by decide
  rcases printText_cases s with hsame | ⟨front, rest, rfl, -, -, -, hprint⟩
  · rwa [hsame]
  · have hfront : ' ' ∉ (Naming.importName front).toList := by
      rcases Naming.importName_cases front with hsame | hname
      · rw [hsame]
        exact fun hmem => h (by simp [hmem])
      · simpa using hnames _ hname
    have hrest : ' ' ∉ rest.toList := fun hmem => h (by simp [hmem])
    simp [hprint, hfront, hrest]

theorem eq_of_printText {s t : String} (h : (printText s).1 = t) (ht : '.' ∉ t.toList) : s = t := by
  rcases printText_cases s with hsame | ⟨front, rest, -, -, -, -, hprint⟩
  · rwa [hsame] at h
  · rw [hprint] at h
    exact absurd (by simp [← h]) ht

theorem printText_join {texts : List String} (h : ∀ s ∈ texts, (printText s).1 = s) :
    (printText (Text.join " | " texts)).1 = Text.join " | " texts := by
  rcases texts with _ | ⟨first, _ | ⟨second, others⟩⟩
  · decide
  · simpa [Text.join] using h
  have hjoin : Text.join " | " (first :: second :: others) =
      first ++ " | " ++ Text.join " | " (second :: others) :=
    String.intercalate_cons_of_ne_nil (by simp)
  rw [hjoin]
  rcases printText_cases (first ++ " | " ++ Text.join " | " (second :: others)) with
    hsame | ⟨front, rest, htext, hrest, hfront, hbracket, hprint⟩
  · rw [hsame]
  rw [hprint, htext]
  dsimp only
  by_cases hbar : '|' ∈ front.toList
  · rw [Naming.importName_of_bar hbar]
  · -- The module is that of the first alternative, which is printed already.
    have hplain : '[' ∉ first.toList := fun hmem => hbracket (by simp [hmem])
    obtain ⟨own, rfl, hown⟩ := exists_first htext hrest hbar
    have hfirst := h (front ++ "." ++ own) mem_cons_self
    rw [printText_dotted hown hfront hplain] at hfirst
    have hsame : Naming.importName front ++ "." = front ++ "." := by simpa using hfirst
    rw [hsame]

def printedParts (s : String) : List String := parts (printText s).1

/-- The alternatives in the order in which a union of texts lists them. -/
def flat (added : List String) : List String :=
  (noneLast (added.eraseDups.map fun s => (printText s).1)).flatMap parts

theorem noneLast_perm (texts : List String) : (noneLast texts).Perm texts := by
  rw [noneLast]
  split
  · next h =>
    have hnone : noneText ∈ texts := by simpa using h
    exact (perm_append_singleton _ _).trans (perm_cons_erase hnone).symm
  · exact .refl _

theorem flat_perm (added : List String) : (flat added).Perm (added.eraseDups.flatMap printedParts) := by
  refine ((noneLast_perm _).flatMap_right parts).trans ?_
  rw [flatMap_map]
  exact .refl _

theorem mem_flat {added : List String} {a : String} :
    a ∈ flat added ↔ ∃ s ∈ added, a ∈ printedParts s := by
  rw [(flat_perm added).mem_iff, mem_flatMap]
  simp only [mem_eraseDups]

theorem nodup_flat_iff {added : List String} : (flat added).Nodup ↔
    (∀ s ∈ added, (printedParts s).Nodup) ∧
      ∀ s ∈ added, ∀ s' ∈ added, s ≠ s' → ∀ a ∈ printedParts s, a ∉ printedParts s' := by
  rw [(flat_perm added).nodup_iff, nodup_flatMap]
  simp only [mem_eraseDups]
  refine and_congr_right fun _ => ⟨fun h s hs s' hs' hne => ?_, fun h => ?_⟩
  · have hsymm : Std.Symm (Function.onFun List.Disjoint printedParts) := ⟨fun _ _ hab _ ha hb => hab hb ha⟩
    exact h.forall (mem_eraseDups.2 hs) (mem_eraseDups.2 hs') hne
  · refine (OrderedSet.nodup_eraseDups added).imp_of_mem fun hs hs' hne => ?_
    exact h _ (mem_eraseDups.1 hs) _ (mem_eraseDups.1 hs') hne

/-- Texts that a union lists one after another: no alternative twice, no empty one beside others, and
`None` alone or at the very end. -/
structure Separate (added : List String) : Prop where
  nodup : ∀ s ∈ added, (printedParts s).Nodup
  disjoint : ∀ s ∈ added, ∀ s' ∈ added, s ≠ s' → ∀ a ∈ printedParts s, a ∉ printedParts s'
  solid : ∀ s ∈ added, "" ∈ printedParts s → ∀ s' ∈ added, s' = ""
  none_last : ∀ s ∈ added, noneText ∈ printedParts s → s = noneText ∨
    (added.eraseDups.getLast? = some s ∧ (printedParts s).getLast? = some noneText)

theorem printedParts_none : printedParts noneText = [noneText] := by decide

theorem getLast?_flatMap {texts : List String} {s : String} (h : printedParts s ≠ []) :
    ((texts ++ [s]).flatMap printedParts).getLast? = (printedParts s).getLast? := by
  rw [flatMap_append, flatMap_singleton, getLast?_append_of_ne_nil _ h]

theorem none_last_iff {added : List String} (hbarred : ∀ s ∈ added, Barred (printText s).1)
    (hdisjoint : ∀ s ∈ added, ∀ s' ∈ added, s ≠ s' → ∀ a ∈ printedParts s, a ∉ printedParts s') :
    (noneText ∈ flat added → (flat added).getLast? = some noneText) ↔
      ∀ s ∈ added, noneText ∈ printedParts s → s = noneText ∨
        (added.eraseDups.getLast? = some s ∧ (printedParts s).getLast? = some noneText) := by
  have hne : ∀ s ∈ added, printedParts s ≠ [] := fun s hs => (hbarred s hs).join_parts.1
  have hprinted : (added.eraseDups.map fun s => (printText s).1).contains noneText =
      decide (noneText ∈ added) := by
    rw [contains_eq_mem, Bool.eq_iff_iff, decide_eq_true_iff, decide_eq_true_iff, mem_map]
    constructor
    · rintro ⟨s, hs, hprint⟩
      rw [← eq_of_printText hprint (by decide)]
      exact mem_eraseDups.1 hs
    · exact fun h => ⟨noneText, mem_eraseDups.2 h, by decide⟩
  by_cases hnone : noneText ∈ added
  · -- A `None` of its own is moved to the end, and no other text has one.
    have hlast : (flat added).getLast? = some noneText := by
      have hparts : parts noneText = [noneText] := by decide
      rw [flat, noneLast, hprinted, if_pos (by simpa using hnone), flatMap_append,
        flatMap_singleton, hparts, getLast?_concat]
    refine ⟨fun _ s hs hmem => .inl ?_, fun _ _ => hlast⟩
    by_contra hsne
    exact hdisjoint s hs noneText hnone hsne _ hmem (by simp [printedParts_none])
  · have hflat : flat added = added.eraseDups.flatMap printedParts := by
      rw [flat, noneLast, hprinted, if_neg (by simpa using hnone), flatMap_map]
      rfl
    rw [hflat]
    constructor
    · intro hlast s hs hmem
      have hkept := mem_eraseDups.2 hs
      have hend := hlast (mem_flatMap.2 ⟨s, hkept, hmem⟩)
      obtain ⟨front, last, hfront⟩ := (eq_nil_or_concat' added.eraseDups).resolve_left
        (ne_nil_of_mem hkept)
      have hin : last ∈ added := mem_eraseDups.1 (by simp [hfront])
      rw [hfront, getLast?_flatMap (hne last hin)] at hend
      have hsame : s = last := by
        by_contra hsne
        exact hdisjoint s hs last hin hsne _ hmem (mem_of_getLast? hend)
      rw [hfront, hsame, getLast?_concat]
      exact .inr ⟨rfl, hend⟩
    · intro h hmem
      obtain ⟨s, hs, hmem⟩ := mem_flatMap.1 hmem
      have hin := mem_eraseDups.1 hs
      rcases h s hin hmem with rfl | ⟨hlast, hend⟩
      · exact absurd hin hnone
      · obtain ⟨front, hfront⟩ := getLast?_eq_some_iff.1 hlast
        rw [hfront, getLast?_flatMap (hne s hin), hend]

/-- A union to which texts were added in this order, and the alternatives that came in by them,
directly or through unions that were filled in the same way. -/
inductive Filled : TypeExpr → (added alternatives : List String) → Prop
  | empty : Filled emptyUnion [] []
  | name {t : TypeExpr} {added alternatives : List String} {s : String}
      (ht : Filled t added alternatives) (hs : IsDotted s) :
      Filled (t.add (text s)) (added ++ [s]) (alternatives ++ [(printText s).1])
  | any {t : TypeExpr} {added alternatives : List String} (ht : Filled t added alternatives) :
      Filled (t.add any) (added ++ [anyText]) (alternatives ++ [anyText])
  | union {t u : TypeExpr} {added alternatives inner more : List String}
      (ht : Filled t added alternatives) (hu : Filled u inner more) :
      Filled (t.add u) (added ++ [u.shown]) (alternatives ++ more)

/-- What adding keeps: a union stores each text once, and the texts have the alternatives. -/
structure Stores (t : TypeExpr) (added alternatives : List String) : Prop where
  stored : ∃ learned, t = union (added.eraseDups.map text) learned
  barred : ∀ s ∈ added, Barred (printText s).1
  mem_iff : ∀ a, a ∈ alternatives ↔ a ≠ "" ∧ ∃ s ∈ added, a ∈ printedParts s

section
variable {t : TypeExpr} {added alternatives : List String}

section
variable (h : Stores t added alternatives)
include h

theorem Stores.shown :
    t.shown = Text.join " | " (noneLast (added.eraseDups.map fun s => (printText s).1)) := by
  obtain ⟨learned, rfl⟩ := h.stored
  rw [TypeExpr.shown, print_texts]

theorem Stores.printed {s : String}
    (hs : s ∈ noneLast (added.eraseDups.map fun s => (printText s).1)) :
    Barred s ∧ (printText s).1 = s := by
  obtain ⟨r, hr, rfl⟩ := mem_map.1 (mem_of_mem_noneLast hs)
  exact ⟨h.barred r (mem_eraseDups.1 hr), by rw [printText_printText]⟩

theorem Stores.shown_eq_join :
    t.shown = Text.join " | " (flat added) := by
  rw [h.shown, join_flatMap_parts fun s hs => (h.printed hs).1, flat]

theorem Stores.blank_notMem :
    ∀ p ∈ flat added, ' ' ∉ p.toList := by
  intro p hp
  obtain ⟨s, hs, hp⟩ := mem_flat.1 hp
  exact (h.barred s hs).join_parts.2.1 p hp

theorem Stores.flat_ne_nil (hne : added ≠ []) : flat added ≠ [] := by
  obtain ⟨s, hs⟩ := exists_mem_of_ne_nil _ hne
  obtain ⟨p, hp⟩ := exists_mem_of_ne_nil _ (h.barred s hs).join_parts.1
  exact ne_nil_of_mem (mem_flat.2 ⟨s, hs, hp⟩)

theorem Stores.parts_shown (hne : added ≠ []) :
    parts t.shown = flat added := by
  rw [h.shown_eq_join, parts_join (h.flat_ne_nil hne) h.blank_notMem]

theorem Stores.printText_shown : (printText t.shown).1 = t.shown := by
  rw [h.shown]
  exact printText_join fun s hs => (h.printed hs).2

theorem Stores.barred_shown : Barred t.shown := by
  by_cases hadded : added = []
  · rw [h.shown, hadded]
    exact barred_of_blank_notMem (by decide)
  · exact ⟨flat added, h.flat_ne_nil hadded, h.blank_notMem, h.shown_eq_join⟩

theorem Stores.mem_iff_parts (a : String) :
    a ∈ alternatives ↔ a ≠ "" ∧ a ∈ parts t.shown := by
  rw [h.mem_iff, and_congr_right_iff]
  intro ha
  by_cases hadded : added = []
  · have hparts : parts "" = [""] := by decide
    have hshown : t.shown = "" := by
      rw [h.shown, hadded]
      rfl
    simp [hshown, hadded, hparts, ha]
  · rw [h.parts_shown hadded, mem_flat]

end

theorem stores_empty : Stores emptyUnion [] [] where
  stored := ⟨OrderedSet.empty, rfl⟩
  barred := forall_mem_nil _
  mem_iff := by simp

theorem Stores.add (h : Stores t added alternatives) {item : TypeExpr} {more : List String}
    (hbarred : Barred (printText item.shown).1)
    (hmore : ∀ a, a ∈ more ↔ a ≠ "" ∧ a ∈ printedParts item.shown) :
    Stores (t.add item) (added ++ [item.shown]) (alternatives ++ more) where
  stored := by
    obtain ⟨learned, rfl⟩ := h.stored
    rw [OrderedSet.eraseDups_concat]
    exact ⟨_, add_texts _ learned item⟩
  barred := forall_mem_append.2 ⟨h.barred, forall_mem_singleton.2 hbarred⟩
  mem_iff := by
    intro a
    rw [mem_append, h.mem_iff, hmore]
    simp only [mem_append, mem_singleton, or_and_right, exists_or, exists_eq_left, and_or_left]

theorem Stores.add_plain (h : Stores t added alternatives) {item : TypeExpr}
    (hblank : ' ' ∉ item.shown.toList) (hne : item.shown ≠ "") :
    Stores (t.add item) (added ++ [item.shown]) (alternatives ++ [(printText item.shown).1]) := by
  have hprinted := blank_notMem_printText hblank
  refine h.add (barred_of_blank_notMem hprinted) fun a => ?_
  rw [printedParts, parts_of_blank_notMem hprinted, mem_singleton, iff_and_self]
  rintro rfl hempty
  exact hne (eq_of_printText hempty (by decide))

theorem Filled.stores (h : Filled t added alternatives) : Stores t added alternatives := by
  induction h with
  | empty => exact stores_empty
  | @name t added alternatives s _ hs ih =>
    exact ih.add_plain (hs.notMem (by decide) (by decide)) hs.ne_empty
  | any _ ih => exact ih.add_plain (by decide) (by decide)
  | @union t u added alternatives inner more _ _ iht ihu =>
    have hprinted := ihu.printText_shown
    refine iht.add (by rw [hprinted]; exact ihu.barred_shown) fun a => ?_
    rw [printedParts, hprinted, ihu.mem_iff_parts]

end

/-- A text lists alternatives: with bars between them, each of them once and `None` last. -/
def Lists (s : String) (alternatives : List String) : Prop :=
  ∃ ps, s = Text.join " | " ps ∧ ps.Nodup ∧ (∀ a, a ∈ ps ↔ a ∈ alternatives) ∧
    (noneText ∈ ps → ps.getLast? = some noneText)

section
variable {t : TypeExpr} {added alternatives : List String}

theorem Stores.alternatives_blank_notMem (h : Stores t added alternatives) :
    ∀ a ∈ alternatives, ' ' ∉ a.toList :=
  fun a ha => h.blank_notMem a (mem_flat.2 ((h.mem_iff a).1 ha).2)

theorem Lists.parts {s : String} (h : Lists s alternatives)
    (hblank : ∀ a ∈ alternatives, ' ' ∉ a.toList) (hs : s ≠ "") :
    (parts s).Nodup ∧ (∀ a, a ∈ parts s ↔ a ∈ alternatives) ∧
      (noneText ∈ parts s → (parts s).getLast? = some noneText) := by
  obtain ⟨ps, rfl, hps⟩ := h
  rw [parts_join _ fun p hp => hblank p ((hps.2.1 p).1 hp)]
  · exact hps
  · rintro rfl
    exact hs rfl

theorem Stores.lists_of_empty (h : Stores t added alternatives) (hempty : ∀ s ∈ added, s = "") :
    Lists t.shown alternatives ∧ Separate added := by
  have hparts : printedParts "" = [""] := by decide
  have hnone : ∀ a, a ∉ alternatives := by
    intro a ha
    obtain ⟨hne, s, hs, ha⟩ := (h.mem_iff a).1 ha
    rw [hempty s hs, hparts, mem_singleton] at ha
    exact hne ha
  have hshown : t.shown = "" := by
    have hkept : ∀ s ∈ added.eraseDups, s = "" := fun s hs => hempty s (mem_eraseDups.1 hs)
    have hnodup := OrderedSet.nodup_eraseDups added
    rw [h.shown]
    generalize added.eraseDups = kept at hkept hnodup ⊢
    rcases kept with _ | ⟨s, _ | ⟨s', others⟩⟩
    · rfl
    · rw [hkept s (by simp)]
      rfl
    · simp [hkept s (by simp), hkept s' (by simp)] at hnodup
  refine ⟨⟨[], hshown, nodup_nil, by simpa using hnone, by simp⟩, ?_, ?_, ?_, ?_⟩
  · intro s hs
    simp [hempty s hs, hparts]
  · intro s hs s' hs' hne
    exact absurd ((hempty s hs).trans (hempty s' hs').symm) hne
  · exact fun _ _ _ => hempty
  · intro s hs hmem
    rw [hempty s hs, hparts] at hmem
    exact absurd hmem (by decide)

theorem Stores.shown_ne_empty (h : Stores t added alternatives) {s : String} (hs : s ∈ added)
    (hne : s ≠ "") : t.shown ≠ "" := by
  intro hshown
  have hmem : (printText s).1 ∈ noneLast (added.eraseDups.map fun s => (printText s).1) :=
    (noneLast_perm _).mem_iff.2 (mem_map_of_mem (mem_eraseDups.2 hs))
  rw [h.shown] at hshown
  refine hne (eq_of_printText ?_ (by decide))
  generalize noneLast (added.eraseDups.map fun s => (printText s).1) = texts at hshown hmem
  rcases texts with _ | ⟨first, _ | ⟨second, others⟩⟩
  · cases hmem
  · rw [mem_singleton.1 hmem]
    simpa [Text.join] using hshown
  · rw [Text.join, String.intercalate_cons_of_ne_nil (by simp)] at hshown
    simp at hshown

/-- A printed union lists the alternatives that were added to it and no others. It lists each of them
once and `None` last exactly if the added texts are separate. -/
theorem shown_lists_iff (h : Filled t added alternatives) :
    (∀ a, a ∈ alternatives ↔ a ≠ "" ∧ a ∈ parts t.shown) ∧
      (Lists t.shown alternatives ↔ Separate added) := by
  have hstores := h.stores
  refine ⟨hstores.mem_iff_parts, ?_⟩
  by_cases hempty : ∀ s ∈ added, s = ""
  · obtain ⟨hlists, hseparate⟩ := hstores.lists_of_empty hempty
    exact iff_of_true hlists hseparate
  simp only [not_forall] at hempty
  obtain ⟨s₀, hs₀, hne₀⟩ := hempty
  constructor
  · intro hlists
    obtain ⟨hnodup, hmem, hlast⟩ := hlists.parts hstores.alternatives_blank_notMem
      (hstores.shown_ne_empty hs₀ hne₀)
    rw [hstores.parts_shown (ne_nil_of_mem hs₀)] at hnodup hmem hlast
    obtain ⟨hown, hdisjoint⟩ := nodup_flat_iff.1 hnodup
    refine ⟨hown, hdisjoint, fun s hs hs' => ?_, (none_last_iff hstores.barred hdisjoint).1 hlast⟩
    have hsolid := (hmem "").1 (mem_flat.2 ⟨s, hs, hs'⟩)
    exact absurd rfl ((hstores.mem_iff "").1 hsolid).1
  · intro hseparate
    refine ⟨flat added, hstores.shown_eq_join, nodup_flat_iff.2 ⟨hseparate.nodup, hseparate.disjoint⟩,
      fun a => ?_, (none_last_iff hstores.barred hseparate.disjoint).2 hseparate.none_last⟩
    rw [mem_flat, hstores.mem_iff, iff_and_self]
    rintro ⟨s, hs, ha⟩ rfl
    exact hne₀ (hseparate.solid s hs ha s₀ hs₀)

end

theorem shown_lists_iff_nested :
    Filled ((emptyUnion.add (text "int")).add ((emptyUnion.add (text "Base.Vector")).add (text "None")))
        ["int", "FreeCAD.Vector | None"] ["int", "FreeCAD.Vector", "None"] ∧
      Separate ["int", "FreeCAD.Vector | None"] ∧
      Lists "int | FreeCAD.Vector | None" ["int", "FreeCAD.Vector", "None"] := by
  have hvector : IsDotted ("Base" ++ "." ++ "Vector") := .dot (.single (by decide)) (by decide)
  have hfilled : Filled
      ((emptyUnion.add (text "int")).add ((emptyUnion.add (text "Base.Vector")).add (text "None")))
      ["int", "FreeCAD.Vector | None"] ["int", "FreeCAD.Vector", "None"] :=
    .union (.name .empty (.single (by decide))) (.name (.name .empty hvector) (.single (by decide)))
  have hseparate : Separate ["int", "FreeCAD.Vector | None"] := by
    constructor <;> decide +kernel
  exact ⟨hfilled, hseparate, (shown_lists_iff hfilled).2.2 hseparate⟩

/-- A union inside a union repeats an alternative, and keeps its `None` in the middle. -/
theorem not_lists_nested_union :
    (Filled ((emptyUnion.add ((emptyUnion.add (text "int")).add (text "str"))).add (text "int"))
        ["int | str", "int"] ["int", "str", "int"] ∧
      ((emptyUnion.add ((emptyUnion.add (text "int")).add (text "str"))).add (text "int")).shown =
        "int | str | int" ∧ ¬ Lists "int | str | int" ["int", "str", "int"]) ∧
    Filled ((emptyUnion.add ((emptyUnion.add (text "int")).add (text "None"))).add (text "str"))
        ["int | None", "str"] ["int", "None", "str"] ∧
      ((emptyUnion.add ((emptyUnion.add (text "int")).add (text "None"))).add (text "str")).shown =
        "int | None | str" ∧ ¬ Lists "int | None | str" ["int", "None", "str"] := by
  have hname : ∀ s ∈ ["int", "str", "None"], IsDotted s := by
    have hnames : ∀ s ∈ ["int", "str", "None"], Text.isIdentifier s = true := by decide
    exact fun s hs => .single (hnames s hs)
  refine ⟨⟨?_, by rfl, fun h => ?_⟩, ?_, by rfl, fun h => ?_⟩
  · exact .name (.union .empty (.name (.name .empty (hname _ (by simp))) (hname _ (by simp))))
      (hname _ (by simp))
  · exact absurd (h.parts (by decide) (by decide)).1 (by decide)
  · exact .name (.union .empty (.name (.name .empty (hname _ (by simp))) (hname _ (by simp))))
      (hname _ (by simp))
  · exact absurd (h.parts (by decide) (by decide)).2.2 (by decide)

end TypeExpr

end BindingStubs
