import BindingStubs.Proofs.Property.Aliases
import BindingStubs.Proofs.Text.Names
import BindingStubs.Proofs.TypeExpr.Modules

set_option autoImplicit false

/-! # Entries among the imports -/

namespace BindingStubs

open List Naming

namespace Naming

inductive IsDotted : String → Prop
  | single {name : String} (h : Text.isIdentifier name = true) : IsDotted name
  | dot {front name : String} (hfront : IsDotted front) (h : Text.isIdentifier name = true) :
      IsDotted (front ++ "." ++ name)

theorem notMem_of_isIdentifier {name : String} (h : Text.isIdentifier name = true) {c : Char}
    (hc : Text.isNameChar c = false) : c ∉ name.toList := by
  intro hmem
  rw [Text.IsNameLike.of_isIdentifier h c hmem] at hc
  cases hc

theorem IsDotted.notMem {s : String} (h : IsDotted s) {c : Char} (hc : Text.isNameChar c = false)
    (hdot : c ≠ '.') : c ∉ s.toList := by
  induction h with
  | single h => exact notMem_of_isIdentifier h hc
  | dot _ h ih =>
    have hname := notMem_of_isIdentifier h hc
    simp [ih, hname, hdot]

theorem IsDotted.front {s front : String} (h : IsDotted s) (hs : moduleName? s = some front) :
    IsDotted front := by
  have hdot : Text.isNameChar '.' = false := by decide
  cases h with
  | single h =>
    rw [moduleName?_eq_none (notMem_of_isIdentifier h hdot)] at hs
    cases hs
  | dot hfront h =>
    rw [moduleName?_dotted _ (notMem_of_isIdentifier h hdot)] at hs
    cases hs
    exact hfront

theorem IsDotted.importName {front : String} (h : IsDotted front) : IsDotted (importName front) := by
  have hnames : ∀ name ∈ importedNames, Text.isIdentifier name = true := by decide
  rcases importName_cases front with hsame | hmem
  · rwa [hsame]
  · exact .single (hnames _ hmem)

/-- The module of one of the names, as it is called where it is imported, or `typing`. -/
def IsModule (rename : String → String) (names : String → Prop) (M : String) : Prop :=
  IsDotted M ∧ (M = "typing" ∨ ∃ s front, names s ∧ moduleName? s = some front ∧ M = rename front)

theorem isModule_typing (rename : String → String) (names : String → Prop) :
    IsModule rename names "typing" :=
  ⟨.single (by decide), .inl rfl⟩

theorem importName_of_bar {name : String} (h : '|' ∈ name.toList) : importName name = name := by
  have hkeys : ∀ entry ∈ namespaceModules ++ moduleAliases, entry.1.toList.contains '|' = false := by
    decide
  have hnone : ∀ table ⊆ namespaceModules ++ moduleAliases, find? table name = none := by
    intro table htable
    rw [find?, Option.map_eq_none_iff, find?_eq_none]
    intro entry hentry heq
    have hkey := hkeys entry (htable hentry)
    rw [eq_of_beq heq, contains_eq_mem, decide_eq_false_iff_not] at hkey
    exact hkey h
  rw [importName, hnone _ (subset_append_left _ _), Option.getD_none,
    hnone _ (subset_append_right _ _), Option.getD_none]

end Naming

namespace TypeExpr

open Naming (IsDotted IsModule)

variable {names : String → Prop}

/-- A text that is printed with the module of a class name, if with any. -/
def NeedsModule (names : String → Prop) (s : String) : Prop :=
  ∀ M ∈ (printText s).2, IsModule importName names M

/-- A text that is cut behind a bar: it has no bracket, and its last dot follows a bar. -/
def Mixed (s : String) : Prop :=
  '[' ∉ s.toList ∧ ∃ front rest, s = front ++ "." ++ rest ∧ '.' ∉ rest.toList ∧ '|' ∈ front.toList

theorem printText_dotted {front rest : String} (hrest : '.' ∉ rest.toList) (hfront : front ≠ "")
    (hbracket : '[' ∉ (front ++ "." ++ rest).toList) :
    printText (front ++ "." ++ rest) =
      (importName front ++ "." ++ rest, some (importName front)) := by
  have hsolid : front.isEmpty = false := by simpa using hfront
  rw [printText, contains_bracket hbracket, if_neg Bool.false_ne_true,
    moduleName?_dotted front hrest]
  simp [hsolid, imported, moduleName?_dotted front hrest,
    className_dotted front hrest]

theorem Mixed.printText {s : String} (h : Mixed s) :
    ∃ M, (TypeExpr.printText s).2 = some M ∧ ¬ IsDotted M := by
  obtain ⟨hbracket, front, rest, rfl, hrest, hbar⟩ := h
  refine ⟨front, ?_, fun hdotted => hdotted.notMem (by decide) (by decide) hbar⟩
  have hfront : front ≠ "" := by
    rintro rfl
    cases hbar
  rw [printText_dotted hrest hfront hbracket, importName_of_bar hbar]

theorem Mixed.bar_mem {s : String} (h : Mixed s) : '|' ∈ s.toList := by
  obtain ⟨-, front, rest, rfl, -, hbar⟩ := h
  simp [hbar]

theorem needsModule_of_bracket {s : String} (h : '[' ∈ s.toList) : NeedsModule names s := by
  intro M hM
  rcases printText_cases s with hprint | ⟨_, _, -, -, -, hbracket, -⟩
  · rw [hprint] at hM
    cases hM
  · exact absurd h hbracket

theorem needsModule_of_notMem {s : String} (h : '.' ∉ s.toList) : NeedsModule names s := by
  intro M hM
  rcases printText_cases s with hprint | ⟨front, rest, rfl, -⟩
  · rw [hprint] at hM
    cases hM
  · exact absurd (by simp) h

theorem needsModule_name (hnames : ∀ s, names s → IsDotted s) {s : String} (hs : names s) :
    NeedsModule names s := by
  intro M hM
  rcases printText_cases s with hprint | ⟨front, rest, rfl, hrest, -, -, hprint⟩
  · rw [hprint] at hM
    cases hM
  · rw [hprint] at hM
    cases hM
    have hfront := moduleName?_dotted front hrest
    exact ⟨((hnames _ hs).front hfront).importName, .inr ⟨_, front, hs, hfront, rfl⟩⟩

theorem needsModule_any : NeedsModule names anyText := by
  have hneeded : (printText anyText).2 = some "typing" := by decide
  intro M hM
  rw [hneeded] at hM
  cases hM
  exact isModule_typing _ _

theorem NeedsModule.printText {s : String} (h : NeedsModule names s) :
    NeedsModule names (TypeExpr.printText s).1 := by
  rw [NeedsModule, printText_printText]
  exact h

theorem exists_first {first others front rest : String}
    (htext : first ++ " | " ++ others = front ++ "." ++ rest) (hrest : '.' ∉ rest.toList)
    (hbar : '|' ∉ front.toList) : ∃ own, first = front ++ "." ++ own ∧ '.' ∉ own.toList := by
  have hlists : front.toList ++ '.' :: rest.toList =
      first.toList ++ ' ' :: '|' :: ' ' :: others.toList := by
    simpa using (congrArg String.toList htext).symm
  -- A front that went beyond the first alternative would hold the bar after it.
  obtain ⟨own, hown, hlists⟩ : ∃ own, first.toList = front.toList ++ own ∧
      '.' :: rest.toList = own ++ ' ' :: '|' :: ' ' :: others.toList := by
    rcases append_eq_append_iff.1 hlists with hown | ⟨more, hmore, hlists⟩
    · exact hown
    · rcases more with _ | ⟨_, _ | ⟨_, more⟩⟩
      · simp at hlists
      · simp at hlists
      · simp only [cons_append, List.cons.injEq] at hlists
        exact absurd (by rw [hmore, ← hlists.2.1]; simp) hbar
  rcases own with _ | ⟨c, own⟩
  · simp at hlists
  obtain ⟨rfl, hafter⟩ := List.cons.inj hlists
  refine ⟨String.ofList own, String.toList_inj.1 (by simp [hown]), fun hmem => hrest ?_⟩
  rw [hafter]
  simpa using Or.inl hmem

theorem mem_printText_first {first others M : String} (h : ¬ Mixed (first ++ " | " ++ others))
    (hM : M ∈ (printText (first ++ " | " ++ others)).2) : M ∈ (printText first).2 := by
  rcases printText_cases (first ++ " | " ++ others) with
    hprint | ⟨front, rest, htext, hrest, hfront, hbracket, hprint⟩
  · rw [hprint] at hM
    cases hM
  rw [hprint] at hM
  cases hM
  have hbar : '|' ∉ front.toList := fun hbar => h ⟨hbracket, front, rest, htext, hrest, hbar⟩
  have hplain : '[' ∉ first.toList := fun hmem => hbracket (by simp [hmem])
  obtain ⟨own, rfl, hown⟩ := exists_first htext hrest hbar
  rw [printText_dotted hown hfront hplain]
  rfl

def Proper (names : String → Prop) : TypeExpr → Prop
  | any => True
  | text s => NeedsModule names s
  | union items learned => ∃ texts : List String, items = texts.map text ∧
      (∀ s ∈ texts, NeedsModule names s) ∧ ∀ M ∈ learned.toList, IsModule importName names M

theorem Proper.learned {t : TypeExpr} (h : Proper names t) :
    ∀ M ∈ t.learned.toList, IsModule importName names M := by
  cases t with
  | any => exact forall_mem_nil _
  | text s => exact forall_mem_nil _
  | union items learned =>
    obtain ⟨-, -, -, hlearned⟩ := h
    exact hlearned

theorem forall_mem_insertAll {P : String → Prop} {s : NameSet} {names : List String}
    (hs : ∀ M ∈ s.toList, P M) (hnames : ∀ M ∈ names, P M) : ∀ M ∈ (s.insertAll names).toList, P M :=
  fun M hM => (OrderedSet.mem_insertAll.1 hM).elim (hs M) (hnames M)

theorem Proper.print {t : TypeExpr} (h : Proper names t) : Proper names t.print.2 := by
  cases t with
  | any => exact h
  | text s => exact h
  | union items learned =>
    obtain ⟨texts, rfl, htexts, hlearned⟩ := h
    rw [print_texts]
    refine ⟨texts, rfl, htexts, forall_mem_insertAll hlearned fun M hM => ?_⟩
    obtain ⟨s, hs, hM⟩ := mem_flatMap.1 hM
    exact htexts s hs M (Option.mem_toList.1 hM)

theorem Proper.shown {t : TypeExpr} (h : Proper names t) (hfit : ¬ Mixed t.shown) :
    NeedsModule names t.shown := by
  cases t with
  | any => exact needsModule_any
  | text s => exact h
  | union items learned =>
    obtain ⟨texts, rfl, htexts, -⟩ := h
    rw [TypeExpr.shown, print_texts] at hfit ⊢
    dsimp only at hfit ⊢
    have hprinted : ∀ s ∈ noneLast (texts.map fun s => (printText s).1), NeedsModule names s := by
      intro shown hshown
      obtain ⟨s, hs, rfl⟩ := mem_map.1 (mem_of_mem_noneLast hshown)
      exact (htexts s hs).printText
    generalize noneLast (texts.map fun s => (printText s).1) = printed at hprinted hfit ⊢
    rcases printed with _ | ⟨first, _ | ⟨second, others⟩⟩
    · exact needsModule_of_notMem (by decide)
    · simpa [Text.join] using hprinted
    · have hjoin : Text.join " | " (first :: second :: others) =
          first ++ " | " ++ Text.join " | " (second :: others) := by
        simp [Text.join, String.append_assoc]
      rw [hjoin] at hfit ⊢
      exact fun M hM => hprinted first mem_cons_self M (mem_printText_first hfit hM)

theorem Proper.add {t item : TypeExpr} (h : Proper names t) (hitem : Proper names item)
    (hfit : ¬ Mixed item.shown) : Proper names (t.add item) := by
  cases t with
  | any => exact h
  | text s => exact h
  | union items learned =>
    obtain ⟨texts, rfl, htexts, hlearned⟩ := h
    rw [add_texts]
    -- The text that is added is the item's; what the item has learned comes along.
    refine ⟨_, rfl, fun s hs => ?_, forall_mem_insertAll hlearned hitem.print.learned⟩
    split at hs
    · exact htexts s hs
    · rcases mem_append.1 hs with hs | hs
      · exact htexts s hs
      · rw [mem_singleton.1 hs]
        exact hitem.shown hfit

theorem Proper.add_mixed {items : List TypeExpr} {learned : NameSet} {item : TypeExpr}
    (h : Proper names (union items learned)) (hmixed : Mixed item.shown) :
    ∃ M ∈ ((union items learned).add item).print.2.learned.toList, ¬ IsDotted M := by
  obtain ⟨texts, rfl, -⟩ := h
  obtain ⟨M, hM, hdotted⟩ := hmixed.printText
  rw [add_texts, print_texts]
  refine ⟨M, OrderedSet.mem_insertAll.2 (.inr (mem_flatMap.2 ⟨item.shown, ?_, ?_⟩)), hdotted⟩
  · split
    · assumption
    · simp
  · exact Option.mem_toList.2 hM

theorem proper_walk (many : Bool) {items : List TypeExpr} (h : ∀ item ∈ items, Proper names item)
    {imports : NameSet} (himports : ∀ M ∈ imports.toList, IsModule importName names M) :
    (∀ item ∈ (walk many items imports).2.1, Proper names item) ∧
      ∀ M ∈ (walk many items imports).2.2.toList, IsModule importName names M := by
  induction items generalizing imports with
  | nil => exact ⟨h, himports⟩
  | cons item items ih =>
    obtain ⟨hitem, hitems⟩ := forall_mem_cons.1 h
    cases item with
    | any =>
      have hnext : ∀ M ∈ (if many then imports.insert "typing" else imports).toList,
          IsModule importName names M := by
        intro M hM
        split at hM
        · rcases (OrderedSet.mem_insert _ _ _).1 hM with hM | rfl
          · exact himports M hM
          · exact isModule_typing _ _
        · exact himports M hM
      obtain ⟨hrest, hfound⟩ := ih hitems hnext
      rw [walk]
      exact ⟨forall_mem_cons.2 ⟨hitem, hrest⟩, hfound⟩
    | text s =>
      have hneeded : ∀ M ∈ (printText s).2.toList, IsModule importName names M :=
        fun M hM => hitem M (Option.mem_toList.1 hM)
      obtain ⟨hrest, hfound⟩ := ih hitems (forall_mem_insertAll himports hneeded)
      rw [walk]
      exact ⟨forall_mem_cons.2 ⟨hitem, hrest⟩, hfound⟩
    | union inner learned =>
      obtain ⟨hrest, hfound⟩ := ih hitems (forall_mem_insertAll himports hitem.learned)
      rw [walk]
      exact ⟨forall_mem_cons.2 ⟨hitem.print, hrest⟩, hfound⟩

theorem proper_tuple {items : List TypeExpr} (varies : Bool)
    (h : ∀ item ∈ items, Proper names item) :
    NeedsModule names (tuple items varies).text ∧
      ∀ M ∈ (tuple items varies).imports.toList, IsModule importName names M := by
  have hname : NeedsModule names "tuple" := needsModule_of_notMem (by decide)
  have htexts : ∀ shown tail, NeedsModule names ("tuple[" ++ shown ++ tail) :=
    fun _ _ => needsModule_of_bracket (by simp)
  have hempty : ∀ M ∈ (OrderedSet.empty : NameSet).toList, IsModule importName names M :=
    forall_mem_nil _
  cases varies with
  | false =>
    simp only [tuple, Bool.false_eq_true, if_false, Bool.false_and]
    split
    · exact ⟨hname, hempty⟩
    · exact ⟨htexts _ _, (proper_walk _ h hempty).2⟩
  | true =>
    obtain ⟨hitems, himports⟩ := proper_walk (decide (1 < items.length)) h hempty
    simp only [tuple, if_true, Bool.true_and]
    split
    · refine ⟨htexts _ _, (proper_walk _ (fun item hitem => ?_) himports).2⟩
      exact hitems item (mem_of_mem_take hitem)
    · split
      · exact ⟨hname, himports⟩
      · exact ⟨htexts _ _, (proper_walk _ hitems himports).2⟩

theorem proper_mapping {keys values : TypeExpr} (hkeys : Proper names keys)
    (hvalues : Proper names values) :
    NeedsModule names (Mapping.print { keys, values }).1 ∧
      ∀ M ∈ (Mapping.print { keys, values }).2.imports.toList,
        IsModule importName names M := by
  have hname : NeedsModule names "dict" := needsModule_of_notMem (by decide)
  rw [Mapping.print]
  split
  · exact ⟨hname, forall_mem_nil _⟩
  · refine ⟨needsModule_of_bracket (by simp), ?_⟩
    exact forall_mem_insertAll
      (forall_mem_insertAll (forall_mem_nil _) hkeys.print.learned) hvalues.print.learned

/-- A type that is put together from class names, where nothing that is added to a union is cut
behind a bar. -/
inductive Built (names : String → Prop) : TypeExpr → Prop
  | name {s : String} (hs : names s) : Built names (text s)
  | any : Built names any
  | empty : Built names emptyUnion
  | add {t item : TypeExpr} (ht : Built names t) (hitem : Built names item)
      (hfit : ¬ Mixed item.shown) : Built names (t.add item)
  | tuple {items : List TypeExpr} (varies : Bool) (hitems : ∀ item ∈ items, Built names item) :
      Built names (text (tuple items varies).text)
  | mapping {keys values : TypeExpr} (hkeys : Built names keys) (hvalues : Built names values) :
      Built names (text (Mapping.print { keys, values }).1)

theorem Built.proper (hnames : ∀ s, names s → IsDotted s) {t : TypeExpr} (h : Built names t) :
    Proper names t := by
  induction h with
  | name hs => exact needsModule_name hnames hs
  | any => trivial
  | empty => exact ⟨[], rfl, forall_mem_nil _, forall_mem_nil _⟩
  | add _ _ hfit ht hitem => exact ht.add hitem hfit
  | tuple varies _ hitems => exact (proper_tuple varies hitems).1
  | mapping _ _ hkeys hvalues => exact (proper_mapping hkeys hvalues).1

end TypeExpr

namespace Property

open Naming (IsDotted IsModule)

variable {names : String → Prop}

def IsLiteral (s : String) : Prop :=
  ∃ quote body, (quote = '\'' ∨ quote = '"') ∧ s.toList = quote :: (body ++ [quote])

/-- A type text that is put together from class names, the given string literals and texts without
dots, such as `()` or a number. What follows a name up to the next separator has no dots. -/
inductive Spelled (names : String → Prop) : String → List String → Prop
  | plain {s : String} (hs : '.' ∉ s.toList) : Spelled names s []
  | dots : Spelled names "..." []
  | name {s after : String} (hs : names s) (hplain : TypeExpr.isPlain (s ++ after) = true)
      (hafter : '.' ∉ after.toList) : Spelled names (s ++ after) []
  | literal {s : String} (hs : IsLiteral s) : Spelled names s [s]
  | blank_left {s : String} {literals : List String} (h : Spelled names s literals) :
      Spelled names (" " ++ s) literals
  | blank_right {s : String} {literals : List String} (h : Spelled names s literals) :
      Spelled names (s ++ " ") literals
  | divided {s t : String} {c : Char} {literals more : List String} (hs : Spelled names s literals)
      (hc : divides c = true) (ht : Spelled names t more) :
      Spelled names (s ++ String.singleton c ++ t) (literals ++ more)

theorem modulesIn_of_notMem {s : String} (h : '.' ∉ s.toList) : modulesIn s = [] := by
  rw [modulesIn, filterMap_eq_nil_iff]
  intro part hpart
  have hwithin := (within_of_mem_partsLoop (forall_mem_nil _) hpart).1
  have hdot : '.' ∉ (Text.trim part).toList :=
    fun hmem => h (hwithin.subset ((Text.Within.refl part).trim.subset hmem))
  dsimp only
  rw [Naming.moduleName?_eq_none hdot, ite_self]

theorem Spelled.isModule (hnames : ∀ s, names s → IsDotted s) {type : String}
    {literals : List String} (h : Spelled names type literals)
    (hliterals : ∀ l ∈ literals, '.' ∉ l.toList) : ∀ M ∈ modulesIn type, IsModule id names M := by
  induction h with
  | plain hs =>
    rw [modulesIn_of_notMem hs]
    exact forall_mem_nil _
  | dots => exact forall_mem_nil _
  | @name s after hs hplain hafter =>
    intro M hM
    rw [TypeExpr.modulesIn_plain hplain, moduleOf?] at hM
    split at hM
    · cases hM
    rcases Naming.dotted_cases s with hdot | ⟨front, rest, rfl, hrest⟩
    · rw [Naming.moduleName?_eq_none (by simp [hdot, hafter])] at hM
      cases hM
    · have hend : '.' ∉ (rest ++ after).toList := by simp [hrest, hafter]
      rw [String.append_assoc, Naming.moduleName?_dotted front hend, Option.toList_some,
        mem_singleton] at hM
      have hfront := Naming.moduleName?_dotted front hrest
      rw [hM]
      exact ⟨(hnames _ hs).front hfront, .inr ⟨_, front, hs, hfront, rfl⟩⟩
  | @literal s _ =>
    rw [modulesIn_of_notMem (hliterals s mem_cons_self)]
    exact forall_mem_nil _
  | blank_left _ ih =>
    rw [modulesIn_blank_left]
    exact ih hliterals
  | blank_right _ ih =>
    rw [modulesIn_blank_right]
    exact ih hliterals
  | divided _ hc _ ihs iht =>
    obtain ⟨hfirst, hmore⟩ := forall_mem_append.1 hliterals
    rw [modulesIn_divided hc]
    exact forall_mem_append.2 ⟨ihs hfirst, iht hmore⟩

theorem Spelled.isLiteral {type l : String} {literals : List String}
    (h : Spelled names type literals) (hl : l ∈ literals) :
    IsLiteral l ∧ modulesIn l ⊆ modulesIn type := by
  induction h with
  | plain => cases hl
  | dots => cases hl
  | name => cases hl
  | literal hs =>
    obtain rfl := mem_singleton.1 hl
    exact ⟨hs, List.Subset.refl _⟩
  | blank_left _ ih =>
    rw [modulesIn_blank_left]
    exact ih hl
  | blank_right _ ih =>
    rw [modulesIn_blank_right]
    exact ih hl
  | divided _ hc _ ihs iht =>
    rw [modulesIn_divided hc]
    rcases mem_append.1 hl with hl | hl
    · exact (ihs hl).imp_right fun hsub => subset_append_of_subset_left _ hsub
    · exact (iht hl).imp_right fun hsub => subset_append_of_subset_right _ hsub

theorem IsLiteral.exists_mem {l : String} (h : IsLiteral l) (hdot : '.' ∈ l.toList)
    (hwhole : l.toList.all (!divides ·) = true) : ∃ M ∈ modulesIn l, ¬ IsDotted M := by
  obtain ⟨quote, body, hquote, hl⟩ := h
  have hsolid : Text.isBlank quote = false ∧ Text.isNameChar quote = false ∧ quote ≠ '.' := by
    rcases hquote with rfl | rfl <;> decide
  have htrim : Text.trim l = l := by
    rw [Text.trim, hl, Chars.trim, Chars.dropBlank, if_neg (by simp [hsolid.1])]
    simp [Chars.dropBlank, hsolid.1, ← String.toList_inj, hl]
  have hparts := TypeExpr.partsLoop_append hwhole [] []
  rw [append_nil, append_nil, partsLoop, reverse_reverse, String.ofList_toList]
    at hparts
  have hdots : l ≠ "..." := by
    rintro rfl
    exact hsolid.2.2 (List.cons.inj hl).1.symm
  obtain ⟨front, rest, rfl, hrest⟩ := (Naming.dotted_cases l).resolve_left (not_not_intro hdot)
  -- The quote in front of the literal is no dot, so it stays in front of what is cut off.
  refine ⟨front, ?_, fun hdotted => hdotted.notMem hsolid.2.1 hsolid.2.2 ?_⟩
  · rw [modulesIn_eq, hparts, map_singleton, htrim, filterMap_cons, moduleOf?,
      if_neg (by simpa using hdots), Naming.moduleName?_dotted front hrest]
    exact mem_cons_self
  · cases hfront : front.toList with
    | nil =>
      simp only [String.toList_append, hfront] at hl
      exact absurd (List.cons.inj hl).1.symm hsolid.2.2
    | cons c cs =>
      simp only [String.toList_append, hfront, cons_append] at hl
      rw [(List.cons.inj hl).1]
      exact mem_cons_self

def typeLines (written : String) : List String := (Text.split written "\n").map Text.trim

theorem run_typeLine_eq_ok {lines : List String} {project : Project} {s s' : Session}
    {type : String} (h : (typeLine lines).run project s = (.ok type, s')) :
    type ∈ lines.map Text.trim ∧ ∃ added, s' = adding s added ∧ ∀ M ∈ added,
      ∃ line ∈ lines.map Text.trim, (declaresType line = true ∧ M = line) ∨ M ∈ modulesIn line := by
  induction lines generalizing s with
  | nil => cases h
  | cons written lines ih =>
    rw [typeLine] at h
    split at h
    · next hdeclares =>
      rw [run_needAll_bind, run_need_bind] at h
      obtain ⟨htype, added, rfl, hadded⟩ := ih h
      refine ⟨mem_cons_of_mem _ htype, modulesIn (Text.trim written) ++
        [Text.trim written] ++ added, by simp only [adding_append], fun M hM => ?_⟩
      rcases mem_append.1 hM with hM | hM
      · refine ⟨_, mem_cons_self, ?_⟩
        rcases mem_append.1 hM with hM | hM
        · exact .inr hM
        · exact .inl ⟨hdeclares, mem_singleton.1 hM⟩
      · obtain ⟨line, hline, hM⟩ := hadded M hM
        exact ⟨line, mem_cons_of_mem _ hline, hM⟩
    · split at h
      · obtain ⟨htype, added, rfl, hadded⟩ := ih h
        refine ⟨mem_cons_of_mem _ htype, added, rfl, fun M hM => ?_⟩
        obtain ⟨line, hline, hM⟩ := hadded M hM
        exact ⟨line, mem_cons_of_mem _ hline, hM⟩
      · cases h
        exact ⟨mem_cons_self, [], rfl, forall_mem_nil _⟩

theorem run_settledType_eq_ok {written type : String} {project : Project} {s s' : Session}
    (h : (settledType written).run project s = (.ok type, s')) :
    ∃ added, s' = adding s added ∧ modulesIn type ⊆ added ∧ ∀ M ∈ added,
      ∃ line ∈ typeLines written, (declaresType line = true ∧ M = line) ∨ M ∈ modulesIn line := by
  rw [settledType] at h
  split at h
  · cases h
    exact ⟨[], rfl, List.Subset.refl _, forall_mem_nil _⟩
  · obtain ⟨found, u, hfound, h⟩ := Gen.run_bind_eq_ok.1 h
    dsimp only at h
    rw [run_needAll_bind] at h
    cases h
    obtain ⟨htype, added, rfl, hadded⟩ := run_typeLine_eq_ok hfound
    refine ⟨added ++ modulesIn type, by rw [adding_append], subset_append_right _ _, ?_⟩
    exact forall_mem_append.2 ⟨hadded, fun M hM => ⟨type, htype, .inr hM⟩⟩

end Property

namespace TypeExpr

open Naming (IsDotted IsModule)
open Property (Spelled declaresType divides settledType typeLines)

/-- Types import modules of their class names and `typing` only, unless a union is added to a union
that has a bar before its last dot, or a property type has a literal with a dot. -/
theorem imports_areModules (names : String → Prop) (hnames : ∀ s, names s → IsDotted s) :
    (∀ t, Built names t → ∀ M ∈ t.print.2.learned.toList, IsModule Naming.importName names M) ∧
    (∀ items varies, (∀ item ∈ items, Built names item) →
      ∀ M ∈ (tuple items varies).imports.toList, IsModule Naming.importName names M) ∧
    (∀ keys values, Built names keys → Built names values →
      ∀ M ∈ (Mapping.print { keys, values }).2.imports.toList, IsModule Naming.importName names M) ∧
    (∀ items learned item, Built names (union items learned) → Mixed item.shown →
      ∃ M ∈ ((union items learned).add item).print.2.learned.toList, ¬ IsDotted M) ∧
    ∀ written type project s s', (settledType written).run project s = (.ok type, s') →
      ((∀ line ∈ typeLines written, ∃ literals, Spelled names line literals ∧
          ∀ l ∈ literals, '.' ∉ l.toList) →
        ∀ M ∈ s'.imports.toList, M ∈ s.imports.toList ∨
          (M ∈ typeLines written ∧ declaresType M = true) ∨ IsModule id names M) ∧
      (∀ literals, Spelled names type literals → ∀ l ∈ literals, '.' ∈ l.toList →
        l.toList.all (!divides ·) = true → ∃ M ∈ s'.imports.toList, ¬ IsDotted M) := by
  refine ⟨fun t ht => (ht.proper hnames).print.learned, fun items varies hitems => ?_,
    fun keys values hkeys hvalues => ?_, fun items learned item ht hmixed => ?_, ?_⟩
  · exact (proper_tuple varies fun item hitem => (hitems item hitem).proper hnames).2
  · exact (proper_mapping (hkeys.proper hnames) (hvalues.proper hnames)).2
  · exact (ht.proper hnames).add_mixed hmixed
  · intro written type project s s' hrun
    obtain ⟨added, rfl, htype, hadded⟩ := Property.run_settledType_eq_ok hrun
    constructor
    · intro hspelled M hM
      rcases OrderedSet.mem_insertAll.1 hM with hM | hM
      · exact .inl hM
      obtain ⟨line, hline, ⟨hdeclares, rfl⟩ | hM⟩ := hadded M hM
      · exact .inr (.inl ⟨hline, hdeclares⟩)
      · obtain ⟨literals, hline, hliterals⟩ := hspelled line hline
        exact .inr (.inr (hline.isModule hnames hliterals M hM))
    · intro literals hspelled l hl hdot hwhole
      obtain ⟨hliteral, hsub⟩ := hspelled.isLiteral hl
      obtain ⟨M, hM, hdotted⟩ := hliteral.exists_mem hdot hwhole
      exact ⟨M, OrderedSet.mem_insertAll.2 (.inr (htype (hsub hM))), hdotted⟩

def vectorNames : List String := ["Base.Vector", "int", "FreeCAD.DocumentObject"]

def linkText : String := "FreeCAD.DocumentObject | None | tuple[()] | DocAndStr_t"

theorem spelled_linkText : Spelled (· ∈ vectorNames) linkText [] := by
  have hname : Spelled (· ∈ vectorNames) ("FreeCAD.DocumentObject" ++ "") [] :=
    .name (by decide) (by decide) (by decide)
  exact hname.blank_right.divided (c := '|') (by decide)
    (.plain (s := " None | tuple[()] | DocAndStr_t") (by decide))

theorem imports_areModules_vector :
    (∀ s, s ∈ vectorNames → IsDotted s) ∧
      ((emptyUnion.add (text "Base.Vector")).add (text "int")).shown = "FreeCAD.Vector | int" ∧
      ((emptyUnion.add (text "Base.Vector")).add (text "int")).print.2.learned.toList =
        ["FreeCAD"] ∧
      IsModule Naming.importName (· ∈ vectorNames) "FreeCAD" ∧
      ∃ s, (settledType linkText).run .empty {} = (.ok linkText, s) ∧
        s.imports.toList = ["FreeCAD"] ∧ IsModule id (· ∈ vectorNames) "FreeCAD" := by
  have hvector : IsDotted ("Base" ++ "." ++ "Vector") := .dot (.single (by decide)) (by decide)
  have hobject : IsDotted ("FreeCAD" ++ "." ++ "DocumentObject") :=
    .dot (.single (by decide)) (by decide)
  have hnames : ∀ s, s ∈ vectorNames → IsDotted s :=
    forall_mem_cons.2 ⟨hvector, forall_mem_cons.2
      ⟨.single (by decide), forall_mem_singleton.2 hobject⟩⟩
  have hbuilt : ∀ s ∈ vectorNames, Built (· ∈ vectorNames) (text s) := fun _ hs => .name hs
  have hfit : ∀ s ∈ vectorNames, ¬ Mixed (text s).shown := by
    have hplain : ∀ s ∈ vectorNames, '|' ∉ s.toList := by decide
    exact fun s hs hmixed => hplain s hs hmixed.bar_mem
  have hlearned : ((emptyUnion.add (text "Base.Vector")).add (text "int")).print.2.learned.toList =
      ["FreeCAD"] := by rfl
  have hunion : Built (· ∈ vectorNames)
      ((emptyUnion.add (text "Base.Vector")).add (text "int")) :=
    ((Built.empty.add (hbuilt _ (by decide)) (hfit _ (by decide))).add (hbuilt _ (by decide))
      (hfit _ (by decide)))
  have hlines : typeLines linkText = [linkText] := by decide
  have hrun : (settledType linkText).run .empty {} =
      (.ok linkText, Property.adding {} ["FreeCAD"]) := by rfl
  have hmodules := imports_areModules (· ∈ vectorNames) hnames
  refine ⟨hnames, by rfl, hlearned, hmodules.1 _ hunion _ (hlearned ▸ mem_cons_self), _, hrun,
    by rfl, ?_⟩
  obtain ⟨hall, -⟩ := hmodules.2.2.2.2 _ _ _ _ _ hrun
  have hspelled : ∀ line ∈ typeLines linkText, ∃ literals,
      Spelled (· ∈ vectorNames) line literals ∧ ∀ l ∈ literals, '.' ∉ l.toList := by
    rw [hlines]
    exact forall_mem_singleton.2 ⟨[], spelled_linkText, forall_mem_nil _⟩
  rcases hall hspelled "FreeCAD" (by decide) with hold | ⟨hline, -⟩ | hmodule
  · cases hold
  · rw [hlines] at hline
    exact absurd hline (by decide)
  · exact hmodule

/-- A union inside a union, and a literal with a dot, import what is no module. -/
theorem not_isDotted_nested_union :
    ((emptyUnion.add ((emptyUnion.add (text "int")).add (text "FreeCAD.Vector"))).add
        (text "str")).print.2.learned.toList = ["FreeCAD", "int | FreeCAD"] ∧
      ¬ IsDotted "int | FreeCAD" ∧
      Property.modulesIn "typing.Literal['a.b', 'c']" = ["typing", "'a"] ∧ ¬ IsDotted "'a" := by
  have hforeign : ∀ s c, c ∈ String.toList s → Text.isNameChar c = false → c ≠ '.' → ¬ IsDotted s :=
    fun s c hmem hc hdot hdotted => hdotted.notMem hc hdot hmem
  refine ⟨by rfl, hforeign _ '|' ?_ ?_ ?_, by decide, hforeign _ '\'' ?_ ?_ ?_⟩ <;> decide

end TypeExpr

end BindingStubs
