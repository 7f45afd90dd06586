import BindingStubs.Proofs.Property.Modules
import BindingStubs.Proofs.Stub.Store
import BindingStubs.TypeExpr.Container

set_option autoImplicit false

/-!
# Modules that printed types need

A text is accounted for if every module of its printed form is known or is found when it is printed.
-/

namespace BindingStubs.Naming

def importedNames : List String :=
  ["FreeCAD", "FreeCADGui", "PartModule", "MeshModule", "PathModule", "PointsModule"]

theorem mem_of_find? {table : List (String × String)} {key value : String}
    (h : find? table key = some value) : ∃ entry ∈ table, value = entry.2 := by
  obtain ⟨entry, hentry, rfl⟩ := Option.map_eq_some_iff.1 h
  exact ⟨entry, List.mem_of_find?_eq_some hentry, rfl⟩

theorem importName_cases (name : String) :
    importName name = name ∨ importName name ∈ importedNames := by
  have hnamespaces : ∀ entry ∈ namespaceModules,
      (find? moduleAliases entry.2).getD entry.2 ∈ importedNames := by decide
  have haliases : ∀ entry ∈ moduleAliases, entry.2 ∈ importedNames := by decide
  rw [importName]
  cases hfirst : find? namespaceModules name with
  | some value =>
    obtain ⟨entry, hentry, rfl⟩ := mem_of_find? hfirst
    exact .inr (hnamespaces entry hentry)
  | none =>
    rw [Option.getD_none]
    cases hsecond : find? moduleAliases name with
    | some value =>
      obtain ⟨entry, hentry, rfl⟩ := mem_of_find? hsecond
      exact .inr (haliases entry hentry)
    | none => exact .inl rfl

theorem importName_importName (name : String) : importName (importName name) = importName name := by
  have hfixed : ∀ name ∈ importedNames, importName name = name := by decide
  rcases importName_cases name with h | h
  · rw [h, h]
  · exact hfixed _ h

theorem cutLast?_dotted (front : String) {rest : String} (h : '.' ∉ rest.toList) :
    Text.cutLast? (front ++ "." ++ rest) "." = some (front, rest) := by
  have hindex := Chars.lastIndex?_of_notMem front.toList h
  have htext : (front ++ "." ++ rest).toList = front.toList ++ '.' :: rest.toList := by simp
  have hdot : ".".toList = ['.'] := by decide
  simp [Text.cutLast?, Chars.cutLast?, htext, hdot, hindex]

theorem moduleName?_dotted (front : String) {rest : String} (h : '.' ∉ rest.toList) :
    moduleName? (front ++ "." ++ rest) = some front := by
  rw [moduleName?, cutLast?_dotted front h]
  rfl

theorem className_dotted (front : String) {rest : String} (h : '.' ∉ rest.toList) :
    className (front ++ "." ++ rest) = rest := by
  rw [className, cutLast?_dotted front h]
  rfl

theorem moduleName?_eq_none {name : String} (h : '.' ∉ name.toList) : moduleName? name = none := by
  have hdot : ".".toList = ['.'] := by decide
  have hindex := Chars.lastIndexFrom_eq_none h 0
  simp [moduleName?, Text.cutLast?, Chars.cutLast?, Chars.lastIndex?, hdot, hindex]

theorem dotted_cases (name : String) :
    '.' ∉ name.toList ∨ ∃ front rest, name = front ++ "." ++ rest ∧ '.' ∉ rest.toList := by
  by_cases h : '.' ∈ name.toList
  · obtain ⟨front, rest, hname, hrest⟩ := Chars.exists_last h
    refine .inr ⟨String.ofList front, String.ofList rest, ?_, by simpa using hrest⟩
    apply String.toList_inj.1
    simp [hname]
  · exact .inl h

end BindingStubs.Naming

namespace BindingStubs.TypeExpr

open List OrderedSet Naming
open Property (modulesIn moduleOf? partsLoop divides)

variable {known : String → Prop}

def Covered (known : String → Prop) (s : String) : Prop := ∀ M ∈ modulesIn s, known M

/-- A text whose printed form mentions only modules that are known or that it is printed with. -/
def Accounted (known : String → Prop) (s : String) : Prop :=
  ∀ M ∈ modulesIn (printText s).1, known M ∨ M ∈ (printText s).2

variable {known' : String → Prop} {s : String}

theorem Covered.mono (h : Covered known s) (hsub : ∀ M, known M → known' M) : Covered known' s :=
  fun M hM => hsub M (h M hM)

theorem Accounted.mono (h : Accounted known s) (hsub : ∀ M, known M → known' M) :
    Accounted known' s :=
  fun M hM => (h M hM).imp_left (hsub M)

theorem printText_cases (s : String) :
    printText s = (s, none) ∨ ∃ front rest, s = front ++ "." ++ rest ∧ '.' ∉ rest.toList ∧
      front ≠ "" ∧ '[' ∉ s.toList ∧
      printText s = (importName front ++ "." ++ rest, some (importName front)) := by
  rw [printText]
  split
  · exact .inl rfl
  · next hbracket =>
    rcases dotted_cases s with hdot | ⟨front, rest, rfl, hrest⟩
    · rw [moduleName?_eq_none hdot]
      exact .inl rfl
    · rw [moduleName?_dotted front hrest]
      dsimp only
      split
      · exact .inl rfl
      · next hfront =>
        refine .inr ⟨front, rest, rfl, hrest, by simpa using hfront, ?_, ?_⟩
        · have hopen : "[".toList = ['['] := by decide
          rw [Text.contains, Chars.contains_iff_infix, hopen, singleton_infix_iff] at hbracket
          exact hbracket
        · rw [imported, moduleName?_dotted front hrest,
            className_dotted front hrest]

theorem contains_bracket (h : '[' ∉ s.toList) : Text.contains s "[" = false := by
  have hopen : "[".toList = ['['] := by decide
  rw [Bool.eq_false_iff, ne_eq, Text.contains, Chars.contains_iff_infix, hopen,
    singleton_infix_iff]
  exact h

theorem printText_printText (s : String) : printText (printText s).1 = printText s := by
  rcases printText_cases s with h | ⟨front, rest, rfl, hrest, hfront, hbracket, h⟩
  · rw [h, h]
  have hnames : ∀ name ∈ importedNames, name ≠ "" ∧ name.toList.contains '[' = false := by
    decide
  have hsolid : importName front ≠ "" ∧ '[' ∉ (importName front).toList := by
    rcases importName_cases front with hsame | hmem
    · rw [hsame]
      refine ⟨hfront, fun hmem => hbracket ?_⟩
      simp [hmem]
    · simpa using hnames _ hmem
  have hplain : '[' ∉ (importName front ++ "." ++ rest).toList := by
    have hmem : '[' ∉ rest.toList := fun hmem => hbracket (by simp [hmem])
    simp [hsolid.2, hmem]
  rw [h, printText, contains_bracket hplain, if_neg Bool.false_ne_true,
    moduleName?_dotted _ hrest, imported, moduleName?_dotted _ hrest,
    className_dotted _ hrest]
  simp [hsolid.1, importName_importName]

theorem Accounted.printText (h : Accounted known s) : Accounted known (TypeExpr.printText s).1 := by
  rw [Accounted, printText_printText]
  exact h

theorem dropBlank_append {xs ys : List Char} (h : ys.head?.all (!Text.isBlank ·) = true)
    (hys : ys ≠ []) : Chars.dropBlank (xs ++ ys) = Chars.dropBlank xs ++ ys := by
  obtain ⟨y, ys, rfl⟩ := exists_cons_of_ne_nil hys
  have hy : Text.isBlank y = false := by simpa using h
  induction xs with
  | nil => simp [Chars.dropBlank, hy]
  | cons x xs ih =>
    rw [cons_append, Chars.dropBlank, Chars.dropBlank]
    split
    · exact ih
    · rfl

theorem mem_partsLoop {part cs : List Char} {p : String} (h : p ∈ partsLoop part cs) :
    (∃ q, q ⊆ cs ∧ p.toList = part.reverse ++ q) ∨ p.toList ⊆ cs := by
  induction cs generalizing part with
  | nil =>
    rw [partsLoop, mem_singleton] at h
    exact .inl ⟨[], nil_subset _, by simp [h]⟩
  | cons c cs ih =>
    rw [partsLoop] at h
    split at h
    · rcases mem_cons.1 h with rfl | h
      · exact .inl ⟨[], nil_subset _, by simp⟩
      · rcases ih h with ⟨q, hq, hp⟩ | hp
        · rw [reverse_nil, nil_append] at hp
          exact .inr (hp ▸ subset_cons_of_subset c hq)
        · exact .inr (subset_cons_of_subset c hp)
    · rcases ih h with ⟨q, hq, hp⟩ | hp
      · exact .inl ⟨c :: q, cons_subset_cons c hq, by simp [hp]⟩
      · exact .inr (subset_cons_of_subset c hp)

theorem partsLoop_append {cs : List Char} (h : cs.all (!divides ·) = true) (part rest : List Char) :
    partsLoop part (cs ++ rest) = partsLoop (cs.reverse ++ part) rest := by
  induction cs generalizing part with
  | nil => rfl
  | cons c cs ih =>
    rw [all_cons, Bool.and_eq_true] at h
    rw [cons_append, partsLoop, if_neg (by simpa using h.1), ih h.2]
    simp

theorem eq_of_mem_modulesIn {name rest M : String} (hname : name ∈ importedNames)
    (hrest : '.' ∉ rest.toList) (hM : M ∈ modulesIn (name ++ "." ++ rest)) : M = name := by
  have hnames : ∀ name ∈ importedNames,
      (name ++ ".").toList.all (!divides ·) = true ∧
        (name ++ ".").toList.head?.all (!Text.isBlank ·) = true := by decide
  obtain ⟨hplain, hfirst⟩ := hnames name hname
  have htext : (name ++ "." ++ rest).toList = (name ++ ".").toList ++ rest.toList := by simp
  rw [modulesIn, htext, partsLoop_append hplain, append_nil] at hM
  obtain ⟨part, hpart, hM⟩ := mem_filterMap.1 hM
  dsimp only at hM
  split at hM
  · cases hM
  rcases mem_partsLoop hpart with ⟨q, hq, hp⟩ | hp
  · rw [reverse_reverse] at hp
    -- Only blanks after the dot are trimmed off.
    have htrim : Text.trim part = name ++ "." ++
        String.ofList (Chars.dropBlank q.reverse).reverse := by
      have hsolid : (name ++ ".").toList.reverse.head?.all (!Text.isBlank ·) = true := by
        simp
        decide
      have hfront : Chars.dropBlank ((name ++ ".").toList ++ q) = (name ++ ".").toList ++ q := by
        obtain ⟨c, cs, hcs⟩ := exists_cons_of_ne_nil (by simp : (name ++ ".").toList ≠ [])
        rw [hcs] at hfirst ⊢
        rw [cons_append, Chars.dropBlank, if_neg (by simpa using hfirst)]
      rw [Text.trim, hp, Chars.trim, hfront, reverse_append, dropBlank_append hsolid (by simp)]
      apply String.toList_inj.1
      simp
    have hlast : '.' ∉ (String.ofList (Chars.dropBlank q.reverse).reverse).toList := by
      intro hmem
      rw [String.toList_ofList, mem_reverse] at hmem
      have hsuffix := (Chars.dropBlank_suffix q.reverse).subset hmem
      exact hrest (hq (mem_reverse.1 hsuffix))
    rw [htrim, moduleName?_dotted name hlast] at hM
    exact (Option.some.inj hM).symm
  · have hnone : '.' ∉ (Text.trim part).toList :=
      fun hmem => hrest (hp ((Text.Within.refl part).trim.subset hmem))
    rw [moduleName?_eq_none hnone] at hM
    cases hM

theorem Covered.accounted (h : Covered known s) : Accounted known s := by
  intro M hM
  rcases printText_cases s with hprint | ⟨front, rest, rfl, hrest, -, -, hprint⟩
  · rw [hprint] at hM
    exact .inl (h M hM)
  · rw [hprint] at hM ⊢
    rcases importName_cases front with hsame | hname
    · rw [hsame] at hM
      exact .inl (h M hM)
    · rw [eq_of_mem_modulesIn hname hrest hM]
      exact .inr rfl

def isPlain (s : String) : Bool := s.toList.all fun c => !divides c && !Text.isBlank c

theorem modulesIn_plain (h : isPlain s = true) : modulesIn s = (moduleOf? s).toList := by
  have hdivides : s.toList.all (!divides ·) = true := by
    rw [all_eq_true]
    intro c hc
    exact (Bool.and_eq_true_iff.1 (all_eq_true.1 h c hc)).1
  have hblank : ∀ cs : List Char, cs ⊆ s.toList → Chars.dropBlank cs = cs := by
    intro cs hcs
    cases cs with
    | nil => rfl
    | cons c cs =>
      have hc := (Bool.and_eq_true_iff.1 (all_eq_true.1 h c (hcs mem_cons_self))).2
      rw [Chars.dropBlank, if_neg (by simpa using hc)]
  have htrim : Text.trim s = s := by
    rw [Text.trim, Chars.trim, hblank _ (List.Subset.refl _), hblank _ (reverse_subset.2
      (List.Subset.refl _)), reverse_reverse, String.ofList_toList]
  have hparts := partsLoop_append hdivides [] []
  rw [append_nil, append_nil, partsLoop, reverse_reverse, String.ofList_toList] at hparts
  rw [Property.modulesIn_eq, hparts, map_singleton, htrim, filterMap_cons]
  cases moduleOf? s <;> rfl

def orLearned (known : String → Prop) (learned : NameSet) (M : String) : Prop :=
  known M ∨ M ∈ learned.toList

def neededBy (texts : List String) : List String := texts.flatMap fun s => (printText s).2.toList

theorem walk_texts (many : Bool) (texts : List String) (imports : NameSet) :
    walk many (texts.map text) imports =
      (texts.map fun s => (printText s).1, texts.map text, imports.insertAll (neededBy texts)) := by
  induction texts generalizing imports with
  | nil => rfl
  | cons s texts ih =>
    simp only [map_cons, walk, ih, neededBy, flatMap_cons, insertAll_append]

theorem print_texts (texts : List String) (learned : NameSet) :
    (union (texts.map text) learned).print =
      (Text.join " | " (noneLast (texts.map fun s => (printText s).1)),
        union (texts.map text) (learned.insertAll (neededBy texts))) := by
  rw [print, walk_texts]

theorem mem_of_mem_noneLast {texts : List String} (h : s ∈ noneLast texts) : s ∈ texts := by
  rw [noneLast] at h
  split at h
  · next hnone =>
    rcases mem_append.1 h with h | h
    · exact mem_of_mem_erase h
    · rw [mem_singleton.1 h]
      simpa using hnone
  · exact h

/-- A union of texts that are accounted for, if what it has learned counts as known. -/
def SoundUnion (known : String → Prop) (t : TypeExpr) : Prop :=
  ∃ (texts : List String) (learned : NameSet), t = union (texts.map text) learned ∧
    ∀ s ∈ texts, Accounted (orLearned known learned) s

/-- A type that accounts for its printed form when it is printed. -/
def Sound (known : String → Prop) : TypeExpr → Prop
  | any => True
  | text s => Accounted known s
  | union items learned => SoundUnion known (union items learned)

theorem orLearned_mono {learned learned' : NameSet} (hknown : ∀ M, known M → known' M)
    (hlearned : learned.toList ⊆ learned'.toList) (M : String) (h : orLearned known learned M) :
    orLearned known' learned' M :=
  h.imp (hknown M) fun hM => hlearned hM

variable {t : TypeExpr}

theorem SoundUnion.mono (h : SoundUnion known t) (hsub : ∀ M, known M → known' M) :
    SoundUnion known' t := by
  obtain ⟨texts, learned, rfl, htexts⟩ := h
  refine ⟨texts, learned, rfl, fun s hs => (htexts s hs).mono ?_⟩
  exact orLearned_mono hsub (List.Subset.refl _)

theorem Sound.mono (h : Sound known t) (hsub : ∀ M, known M → known' M) : Sound known' t := by
  cases t with
  | any => trivial
  | text s => exact Accounted.mono h hsub
  | union items learned => exact SoundUnion.mono h hsub

theorem SoundUnion.sound (h : SoundUnion known t) : Sound known t := by
  obtain ⟨texts, learned, rfl, htexts⟩ := h
  exact ⟨texts, learned, rfl, htexts⟩

theorem subset_insertAll (s : NameSet) (names : List String) :
    s.toList ⊆ (s.insertAll names).toList :=
  fun _ hM => mem_insertAll.2 (.inl hM)

theorem SoundUnion.print (h : SoundUnion known t) :
    SoundUnion known t.print.2 ∧ Covered (orLearned known t.print.2.learned) t.shown := by
  obtain ⟨texts, learned, rfl, htexts⟩ := h
  rw [shown, print_texts]
  refine ⟨⟨texts, _, rfl, fun s hs => (htexts s hs).mono ?_⟩, ?_⟩
  · exact orLearned_mono (fun _ hM => hM) (subset_insertAll _ _)
  · intro M hM
    rw [Property.separates_bar.modulesIn_join] at hM
    obtain ⟨shown, hshown, hM⟩ := mem_flatMap.1 hM
    obtain ⟨s, hs, rfl⟩ := mem_map.1 (mem_of_mem_noneLast hshown)
    rcases htexts s hs M hM with hknown | hneeded
    · exact orLearned_mono (fun _ hM => hM) (subset_insertAll _ _) M hknown
    · refine .inr (mem_insertAll.2 (.inr (mem_flatMap_of_mem hs ?_)))
      exact Option.mem_toList.2 hneeded

theorem accounted_anyText : Accounted known anyText := by
  have hmodules : modulesIn (printText anyText).1 = ["typing"] := by decide
  have hneeded : (printText anyText).2 = some "typing" := by decide
  intro M hM
  rw [hmodules, mem_singleton] at hM
  exact .inr (hM ▸ hneeded)

theorem Sound.shown (h : Sound known t) :
    Accounted (orLearned known t.print.2.learned) t.shown := by
  cases t with
  | any => exact accounted_anyText
  | text s => exact Accounted.mono h fun _ hM => .inl hM
  | union items learned => exact (SoundUnion.print h).2.accounted

theorem soundUnion_empty : SoundUnion known emptyUnion :=
  ⟨[], empty, rfl, forall_mem_nil _⟩

theorem addTo_texts (texts : List String) (s : String) :
    addTo (texts.map text) (text s) = (if s ∈ texts then texts else texts ++ [s]).map text := by
  have hany : (texts.map text).any (same (text s)) = decide (s ∈ texts) := by
    rw [any_map, Bool.eq_iff_iff, any_eq_true]
    simp [same]
  rw [addTo, hany]
  by_cases h : s ∈ texts <;> simp [h]

theorem add_texts (texts : List String) (learned : NameSet) (item : TypeExpr) :
    (union (texts.map text) learned).add item =
      union ((if item.shown ∈ texts then texts else texts ++ [item.shown]).map text)
        (learned.union item.print.2.learned) := by
  rw [← addTo_texts]
  rfl

theorem SoundUnion.add {t item : TypeExpr} (h : SoundUnion known t) (hitem : Sound known item) :
    SoundUnion known (t.add item) := by
  obtain ⟨texts, learned, rfl, htexts⟩ := h
  have hold : learned.toList ⊆ (learned.union item.print.2.learned).toList := subset_insertAll _ _
  have hnew : item.print.2.learned.toList ⊆ (learned.union item.print.2.learned).toList :=
    fun M hM => mem_insertAll.2 (.inr hM)
  refine ⟨_, _, add_texts texts learned item, fun s hs => ?_⟩
  have hcases : s ∈ texts ∨ s = item.shown := by
    split at hs
    · exact .inl hs
    · simpa using hs
  rcases hcases with hs | rfl
  · exact (htexts s hs).mono (orLearned_mono (fun _ hM => hM) hold)
  · exact hitem.shown.mono (orLearned_mono (fun _ hM => hM) hnew)

theorem unionOfTexts_eq (texts : List String) :
    unionOfTexts texts = union (texts.eraseDups.map text) empty := by
  have hfold : ∀ (texts : List String) (s : NameSet),
      (texts.map text).foldl addTo (s.toList.map text) = (s.insertAll texts).toList.map text := by
    intro texts
    induction texts with
    | nil => exact fun s => rfl
    | cons a texts ih =>
      intro s
      rw [map_cons, foldl_cons, addTo_texts, ← toList_insert, ih]
      rfl
  rw [unionOfTexts, unionOf, ← toList_ofList]
  exact congrArg (union · empty) (hfold texts empty)

theorem printed_unionOfTexts (texts : List String) :
    (unionOfTexts texts).printed = texts.eraseDups.map fun s => (printText s).1 := by
  rw [unionOfTexts_eq, printed, walk_texts]

theorem printed_unionOfTexts_printed (texts : List String) :
    (unionOfTexts (unionOfTexts texts).printed).printed =
      (texts.map fun s => (printText s).1).eraseDups := by
  rw [printed_unionOfTexts, printed_unionOfTexts, eraseDups_map_eraseDups]
  refine (map_congr_left fun s hs => ?_).trans (map_id _)
  obtain ⟨a, -, rfl⟩ := mem_map.1 (mem_eraseDups.1 hs)
  rw [printText_printText, id]

/-- A type that knows the modules of its printed form before it is printed again. -/
def Settled (known : String → Prop) (t : TypeExpr) : Prop :=
  Sound known t ∧ ∀ inner learned, t = union inner learned → Covered (orLearned known learned) t.shown

/-- A module of a union's printed form that the union does not know yet. -/
def Unlearned (known : String → Prop) (items : List TypeExpr) (M : String) : Prop :=
  ∃ inner learned, union inner learned ∈ items ∧ M ∈ modulesIn (union inner learned).shown ∧
    ¬ orLearned known learned M

variable {items : List TypeExpr}

theorem not_unlearned (h : ∀ item ∈ items, Settled known item) (M : String) :
    ¬ Unlearned known items M := by
  rintro ⟨inner, learned, hmem, hM, hnot⟩
  exact hnot ((h _ hmem).2 inner learned rfl M hM)

structure Walked (known : String → Prop) (many : Bool) (items : List TypeExpr) (imports : NameSet)
    (found : List String × List TypeExpr × NameSet) : Prop where
  imports_subset : imports.toList ⊆ found.2.2.toList
  settled : ∀ item ∈ found.2.1, Settled known item
  any_mem : any ∈ found.2.1 → any ∈ items
  covered : ∀ s ∈ found.1, ∀ M ∈ modulesIn s, orLearned known found.2.2 M ∨
    (many = false ∧ any ∈ items ∧ M = "typing") ∨ Unlearned known items M

theorem Settled.of_text (h : Accounted known s) : Settled known (text s) :=
  ⟨h, fun _ _ heq => by cases heq⟩

theorem settled_any : Settled known any := ⟨trivial, fun _ _ heq => by cases heq⟩

theorem SoundUnion.settled_print (h : SoundUnion known t) : Settled known t.print.2 := by
  refine ⟨h.print.1.sound, fun inner learned heq => ?_⟩
  have hsame : t.print.2.shown = t.shown := by
    obtain ⟨texts, learned, rfl, -⟩ := h
    simp only [shown, print_texts]
  have hcovered := h.print.2
  rw [hsame]
  rw [heq] at hcovered
  exact hcovered

theorem Walked.cons {many : Bool} {item item' : TypeExpr} {shown : String} {imports next : NameSet}
    {found : List String × List TypeExpr × NameSet} (hwalked : Walked known many items next found)
    (hnext : imports.toList ⊆ next.toList) (hitem : Settled known item')
    (hany : item' = any → item = any)
    (hshown : ∀ M ∈ modulesIn shown, orLearned known next M ∨
      (many = false ∧ item = any ∧ M = "typing") ∨ Unlearned known [item] M) :
    Walked known many (item :: items) imports (shown :: found.1, item' :: found.2.1, found.2.2) where
  imports_subset := List.Subset.trans hnext hwalked.imports_subset
  settled := forall_mem_cons.2 ⟨hitem, hwalked.settled⟩
  any_mem := by
    intro hmem
    rcases mem_cons.1 hmem with heq | hmem
    · rw [hany heq.symm]
      exact mem_cons_self
    · exact mem_cons_of_mem _ (hwalked.any_mem hmem)
  covered := by
    refine forall_mem_cons.2 ⟨fun M hM => ?_, fun s hs M hM => ?_⟩
    · rcases hshown M hM with hM | ⟨hmany, heq, hM⟩ | ⟨inner, learned, hmem, hM⟩
      · exact .inl (hM.imp_right fun h => hwalked.imports_subset h)
      · exact .inr (.inl ⟨hmany, heq ▸ mem_cons_self, hM⟩)
      · obtain rfl := mem_singleton.1 hmem
        exact .inr (.inr ⟨inner, learned, mem_cons_self, hM⟩)
    · rcases hwalked.covered s hs M hM with hM | ⟨hmany, hmem, hM⟩ | ⟨inner, learned, hmem, hM⟩
      · exact .inl hM
      · exact .inr (.inl ⟨hmany, mem_cons_of_mem _ hmem, hM⟩)
      · exact .inr (.inr ⟨inner, learned, mem_cons_of_mem _ hmem, hM⟩)

theorem walked_walk (many : Bool) (h : ∀ item ∈ items, Sound known item) (imports : NameSet) :
    Walked known many items imports (walk many items imports) := by
  induction items generalizing imports with
  | nil =>
    exact ⟨List.Subset.refl _, forall_mem_nil _, fun h => h, forall_mem_nil _⟩
  | cons item items ih =>
    have hitem : Sound known item := h item mem_cons_self
    have hrest := ih fun item hitem => h item (mem_cons_of_mem _ hitem)
    cases item with
    | any =>
      rw [walk]
      refine (hrest _).cons ?_ settled_any (fun _ => rfl) ?_
      · intro M hM
        split
        · exact (mem_insert _ _ _).2 (.inl hM)
        · exact hM
      · intro M hM
        have hmodules : modulesIn anyText = ["typing"] := by decide
        rw [hmodules, mem_singleton] at hM
        cases many with
        | false => exact .inr (.inl ⟨rfl, rfl, hM⟩)
        | true => exact .inl (.inr ((mem_insert _ _ _).2 (.inr hM)))
    | text s =>
      rw [walk]
      refine (hrest _).cons (subset_insertAll _ _) (.of_text hitem) (fun h => by cases h) ?_
      intro M hM
      refine .inl ((hitem M hM).imp_right fun hneeded => ?_)
      exact mem_insertAll.2 (.inr (Option.mem_toList.2 hneeded))
    | union inner learned =>
      rw [walk]
      refine (hrest _).cons (subset_insertAll _ _) (SoundUnion.settled_print hitem) ?_ ?_
      · intro heq
        cases heq
      · intro M hM
        by_cases hlearned : orLearned known learned M
        · exact .inl (hlearned.imp_right fun hmem => mem_insertAll.2 (.inr hmem))
        · exact .inr (.inr ⟨inner, learned, mem_cons_self, hM, hlearned⟩)

theorem modulesIn_tuple (texts : List String) :
    modulesIn ("tuple[" ++ Text.join ", " texts ++ "]") = texts.flatMap modulesIn := by
  have hname : modulesIn "tuple" = [] := by decide
  have htext : "tuple[" ++ Text.join ", " texts ++ "]" =
      "tuple" ++ "[" ++ Text.join ", " texts ++ "]" := rfl
  rw [htext, Property.modulesIn_bracketed, Property.separates_comma.modulesIn_join, hname,
    nil_append]

theorem modulesIn_repeatedTuple (texts : List String) :
    modulesIn ("tuple[" ++ Text.join ", " texts ++ ", ...]") = texts.flatMap modulesIn := by
  have hname : modulesIn "tuple" = [] := by decide
  have hrepeated : modulesIn "..." = [] := by decide
  have htext : "tuple[" ++ Text.join ", " texts ++ ", ...]" =
      "tuple" ++ "[" ++ (Text.join ", " texts ++ ", " ++ "...") ++ "]" := by
    apply String.toList_inj.1
    simp
  rw [htext, Property.modulesIn_bracketed, Property.separates_comma,
    Property.separates_comma.modulesIn_join, hname, hrepeated, nil_append, append_nil]

theorem eq_singleton_of_mem {item : TypeExpr} (hfew : decide (1 < items.length) = false)
    (h : item ∈ items) : items = [item] := by
  match items, h with
  | [_], h => rw [← mem_singleton.1 h]
  | _ :: _ :: _, _ => simp at hfew

theorem mem_imports_again {items some : List TypeExpr} {M s : String}
    (hitems : ∀ item ∈ items, Sound known item)
    (hsome : some ⊆ (walk (1 < items.length) items empty).2.1)
    (hs : s ∈ (walk (1 < items.length) some
      (walk (1 < items.length) items empty).2.2).1) (hM : M ∈ modulesIn s) :
    orLearned known (walk (1 < items.length) some
        (walk (1 < items.length) items empty).2.2).2.2 M ∨
      (items = [any] ∧ M = "typing") := by
  have hfirst := walked_walk (decide (1 < items.length)) hitems empty
  have hsettled : ∀ item ∈ some, Settled known item :=
    fun item hitem => hfirst.settled item (hsome hitem)
  have hagain := walked_walk (decide (1 < items.length)) (fun item hitem => (hsettled item hitem).1)
    (walk (1 < items.length) items empty).2.2
  rcases hagain.covered s hs M hM with hM | ⟨hfew, hany, hM⟩ | hM
  · exact .inl hM
  · exact .inr ⟨eq_singleton_of_mem hfew (hfirst.any_mem (hsome hany)), hM⟩
  · exact absurd hM (not_unlearned hsettled M)

/-- What a tuple may fail to import: `typing` for a lone unknown item, and modules of unions in a
tuple of fixed length. -/
theorem mem_imports_tuple {varies : Bool} {M : String} (hitems : ∀ item ∈ items, Sound known item)
    (hM : M ∈ modulesIn (tuple items varies).text) :
    orLearned known (tuple items varies).imports M ∨ (items = [any] ∧ M = "typing") ∨
      (varies = false ∧ Unlearned known items M) := by
  have hnone : modulesIn "tuple" = [] := by decide
  cases varies with
  | false =>
    simp only [tuple, Bool.false_eq_true, if_false, Bool.false_and] at hM ⊢
    split at hM
    · rw [hnone] at hM
      cases hM
    · next hitem =>
      rw [if_neg hitem]
      rw [modulesIn_tuple] at hM
      obtain ⟨s, hs, hM⟩ := mem_flatMap.1 hM
      rcases (walked_walk _ hitems _).covered s hs M hM with hM | ⟨hfew, hany, hM⟩ | hM
      · exact .inl hM
      · exact .inr (.inl ⟨eq_singleton_of_mem hfew hany, hM⟩)
      · exact .inr (.inr ⟨trivial, hM⟩)
  | true =>
    simp only [tuple, if_true, Bool.true_and] at hM ⊢
    split at hM
    · next halike =>
      rw [if_pos halike]
      rw [modulesIn_repeatedTuple] at hM
      obtain ⟨s, hs, hM⟩ := mem_flatMap.1 hM
      exact (mem_imports_again hitems (take_subset _ _) hs hM).imp_right .inl
    · next hdifferent =>
      split at hM
      · rw [hnone] at hM
        cases hM
      · next hitem =>
        rw [if_neg hdifferent, if_neg hitem]
        rw [modulesIn_tuple] at hM
        obtain ⟨s, hs, hM⟩ := mem_flatMap.1 hM
        exact (mem_imports_again hitems (List.Subset.refl _) hs hM).imp_right .inl

theorem Mapping.covered_print {m : Mapping} (hkeys : SoundUnion known m.keys)
    (hvalues : SoundUnion known m.values) :
    Covered (orLearned known m.print.2.imports) m.print.1 := by
  have hname : modulesIn "dict" = [] := by decide
  intro M hM
  rw [Mapping.print] at hM ⊢
  split at hM
  · rw [hname] at hM
    cases hM
  · next hitems =>
    rw [if_neg hitems]
    have htext : "dict[" ++ m.keys.print.1 ++ ", " ++ m.values.print.1 ++ "]" =
        "dict" ++ "[" ++ (m.keys.shown ++ ", " ++ m.values.shown) ++ "]" := by
      apply String.toList_inj.1
      simp [shown]
    dsimp only at hM
    rw [htext, Property.modulesIn_bracketed, Property.separates_comma, hname, nil_append,
      mem_append] at hM
    rcases hM with hM | hM
    · refine (hkeys.print.2 M hM).imp_right fun hmem => ?_
      exact mem_insertAll.2 (.inl (mem_insertAll.2 (.inr hmem)))
    · refine (hvalues.print.2 M hM).imp_right fun hmem => ?_
      exact mem_insertAll.2 (.inr hmem)

end BindingStubs.TypeExpr
