import BindingStubs.Proofs.ClassSection.Definition
import BindingStubs.Proofs.Source.Pieces
import BindingStubs.Proofs.Text.Blanks

set_option autoImplicit false

/-! # Sections of a written class -/

namespace BindingStubs.ClassSection

open Pattern Source List

structure Entry where
  gap : String
  declaration : String
  isGap : IsGap gap.toList := by decide +kernel
  nonempty : declaration ≠ "" := by decide +kernel
  trimmed : Text.trim declaration = declaration := by decide +kernel
  whole : SelfContained ['\x7b'] ['\x7d'] ';' declaration.toList := by decide +kernel
  headless : Headless declaration.toList := by decide +kernel

def Entry.written (e : Entry) : List Char :=
  e.gap.toList ++ (e.declaration.toList ++ [';'])

structure WrittenSection where
  gap : String
  head : String
  kind : SectionKind
  entries : List Entry
  isGap : IsGap gap.toList := by decide +kernel
  isHead : IsHead kind head.toList

namespace WrittenSection

def inside (s : WrittenSection) : List Char := s.entries.flatMap Entry.written

def written (s : WrittenSection) : List Char := s.gap.toList ++ (s.head.toList ++ s.inside)

end WrittenSection

structure WrittenClass where
  before : String
  opening : String
  name : String
  sections : List WrittenSection
  gap : String
  after : String
  noKeyword : ¬ "class".toList <:+: before.toList := by decide +kernel
  isIdentifier : Text.isIdentifier name = true := by decide +kernel
  isOpening : IsOpening name.toList opening.toList
  isGap : IsGap gap.toList := by decide +kernel

namespace WrittenClass

def body (c : WrittenClass) : List Char := c.sections.flatMap WrittenSection.written ++ c.gap.toList

def text (c : WrittenClass) : String :=
  String.ofList (c.before.toList ++ (c.opening.toList ++ (c.body ++ '\x7d' :: c.after.toList)))

end WrittenClass

abbrev Closed (cs : List Char) : Prop := Inside.scan? ['\x7b'] ['\x7d'] {} cs = some {}

theorem closed_append {cs more : List Char} (h : Closed cs) (hmore : Closed more) :
    Closed (cs ++ more) := by
  rw [Closed, Inside.scan?_append, h, Option.bind_some, hmore]

theorem closed_flatMap {α : Type} {f : α → List Char} {xs : List α} (h : ∀ x ∈ xs, Closed (f x)) :
    Closed (xs.flatMap f) := by
  induction xs with
  | nil => rfl
  | cons x xs ih =>
    rw [flatMap_cons]
    exact closed_append (h x mem_cons_self) (ih fun y hy => h y (mem_cons_of_mem x hy))

theorem isPlain_of_isHeadChar {c : Char} (h : isHeadChar c = true) :
    IsPlain ['\x7b'] ['\x7d'] c := by
  have hne {d : Char} (hd : isHeadChar d = false) : c ≠ d := by
    rintro rfl
    rw [h] at hd
    cases hd
  exact ⟨hne (by decide), hne (by decide), by simpa using hne (by decide),
    by simpa using hne (by decide)⟩

theorem IsGap.closed {gap : List Char} (h : IsGap gap) : Closed gap :=
  Inside.scan?_of_isPlain fun c hc => isPlain_of_isHeadChar (h.isHeadChar c hc)

theorem IsHead.closed {kind : SectionKind} {head : List Char} (h : IsHead kind head) :
    Closed head := by
  obtain ⟨front, rfl, hfront⟩ := h.exists_front
  exact closed_append (Inside.scan?_of_isPlain fun c hc => isPlain_of_isHeadChar (hfront c hc)) rfl

theorem Entry.closed (e : Entry) : Closed e.written :=
  closed_append e.isGap.closed (closed_append e.whole.closed rfl)

theorem WrittenSection.closed (s : WrittenSection) : Closed s.written :=
  closed_append s.isGap.closed (closed_append s.isHead.closed (closed_flatMap fun e _ => e.closed))

theorem WrittenClass.closed (c : WrittenClass) : Closed c.body :=
  closed_append (closed_flatMap fun s _ => s.closed) c.isGap.closed

theorem bracePieces_closed {body : List Char} (h : Closed body) (front after : List Char) :
    bracePieces (String.ofList (front ++ (body ++ '\x7d' :: after))) front.length none =
      [String.ofList body] := by
  have hcut : piecesLoop ['\x7b'] ['\x7d'] none {} [] (body ++ '\x7d' :: after) = [body] := by
    rw [piecesLoop_none_append h, piecesLoop_none_cons]
    simp [Inside.next?]
  rw [bracePieces, pieces, String.toList_ofList, drop_left, hcut, map_singleton]

theorem bracePieces_body (c : WrittenClass) :
    bracePieces c.text (c.before.toList ++ c.opening.toList).length none =
      [String.ofList c.body] := by
  rw [WrittenClass.text, ← append_assoc]
  exact bracePieces_closed c.closed _ _

theorem semicolon_isPlain : IsPlain ['\x7b'] ['\x7d'] ';' := by decide

theorem piecesLoop_entries (entries : List Entry) :
    piecesLoop ['\x7b'] ['\x7d'] (some ';') {} [] (entries.flatMap Entry.written) =
      entries.map (fun e => e.gap.toList ++ e.declaration.toList) ++ [[]] := by
  induction entries with
  | nil => rfl
  | cons e entries ih =>
    have hgap : ';' ∉ e.gap.toList := e.isGap.notMem (by decide)
    rw [flatMap_cons, Entry.written, append_assoc, append_assoc,
      piecesLoop_append semicolon_isPlain e.isGap.closed (uncut_of_notMem hgap _),
      piecesLoop_append semicolon_isPlain e.whole.closed e.whole.uncut, singleton_append,
      piecesLoop_separator semicolon_isPlain, ih]
    simp

theorem Entry.trim_declaration (e : Entry) :
    Chars.trim e.declaration.toList = e.declaration.toList := by
  have htrimmed := congrArg String.toList e.trimmed
  rwa [Text.trim, String.toList_ofList] at htrimmed

theorem getLast?_entries {entries : List Entry} (hne : entries ≠ []) :
    (entries.flatMap Entry.written).getLast? = some ';' := by
  induction entries with
  | nil => exact absurd rfl hne
  | cons e entries ih =>
    rw [flatMap_cons]
    cases entries with
    | nil => simp [Entry.written]
    | cons e' entries => rw [List.getLast?_append, ih (cons_ne_nil _ _), Option.some_or]

theorem exists_entries_of_trim (entries : List Entry) :
    ∃ entries' : List Entry, entries'.map Entry.declaration = entries.map Entry.declaration ∧
      Chars.trim (entries.flatMap Entry.written) = entries'.flatMap Entry.written := by
  cases entries with
  | nil => exact ⟨[], rfl, rfl⟩
  | cons e entries =>
    let e' : Entry := { e with gap := "", isGap := forall_mem_nil _ }
    refine ⟨e' :: entries, rfl, ?_⟩
    have hgap : (e :: entries).flatMap Entry.written =
        e.gap.toList ++ (e' :: entries).flatMap Entry.written := by
      simp [Entry.written, e']
    rw [hgap, Chars.trim_blank_append e.isGap, Chars.trim_eq_self_iff, getLast?_entries (by simp)]
    refine ⟨?_, rfl⟩
    have hfirst := (Chars.trim_eq_self_iff.1 e.trim_declaration).1
    have hne : e.declaration.toList ≠ [] := by simpa using e.nonempty
    obtain ⟨c, cs, hcs⟩ := exists_cons_of_ne_nil hne
    rw [hcs] at hfirst
    simpa [Entry.written, e', hcs] using hfirst

def WrittenSection.read (s : WrittenSection) : ClassSection where
  kind := s.kind
  head := s.head
  body := String.ofList (Chars.trim s.inside)

theorem declarations_read (s : WrittenSection) :
    s.read.declarations = s.entries.map Entry.declaration := by
  obtain ⟨entries, hentries, htrim⟩ := exists_entries_of_trim s.entries
  rw [declarations, WrittenSection.read, WrittenSection.inside, htrim, bracePieces, pieces,
    String.toList_ofList, drop_zero, piecesLoop_entries, ← hentries]
  have htrim (e : Entry) :
      Text.trim (String.ofList (e.gap.toList ++ e.declaration.toList)) = e.declaration := by
    rw [Text.trim, String.toList_ofList, Chars.trim_blank_append e.isGap, e.trim_declaration,
      String.ofList_toList]
  simp only [map_append, map_map, Function.comp_def, htrim, filter_append]
  have hkept : (entries.map Entry.declaration).filter (fun d => !d.isEmpty) =
      entries.map Entry.declaration := by
    rw [filter_eq_self]
    intro d hd
    obtain ⟨e, -, rfl⟩ := mem_map.1 hd
    simpa using e.nonempty
  rw [hkept]
  exact append_nil _

def Free (word : List Char) : Prop := ∀ after, Clear headPattern.node word after

theorem Free.append {word word' : List Char} (h : Free word) (h' : Free word') :
    Free (word ++ word') :=
  fun after => (h (word' ++ after)).append (h' after)

theorem free_flatMap {α : Type} {f : α → List Char} {xs : List α} (h : ∀ x ∈ xs, Free (f x)) :
    Free (xs.flatMap f) := by
  induction xs with
  | nil =>
    intro after u v huv hv
    exact absurd (append_eq_nil_iff.1 huv).2 hv
  | cons x xs ih =>
    rw [flatMap_cons]
    exact (h x mem_cons_self).append (ih fun y hy => h y (mem_cons_of_mem x hy))

theorem IsGap.free {gap : List Char} (h : IsGap gap) : Free gap := by
  rintro after u v rfl hv w hw hstarts
  obtain ⟨kind, hhead⟩ := takes_headPattern.1 hw
  obtain ⟨c, v, rfl⟩ := exists_cons_of_ne_nil hv
  have hblank : Text.isBlank c = true := h c (mem_append_right u mem_cons_self)
  obtain ⟨d, w, rfl⟩ := exists_cons_of_ne_nil hhead.ne_nil
  obtain rfl : d = c := (cons_prefix_cons.1 hstarts).1
  rcases hhead.head?_eq with hd | hd
  · rw [Option.some.inj hd] at hblank
    exact absurd hblank (by decide)
  · rw [Option.some.inj hd] at hblank
    exact absurd hblank (by decide)

theorem free_declaration {cs : List Char} (h : Headless cs) : Free (cs ++ [';']) := by
  intro after u v huv hv w hw hstarts
  obtain ⟨kind, hhead⟩ := takes_headPattern.1 hw
  obtain ⟨v, d, rfl⟩ := (eq_nil_or_concat' v).resolve_left hv
  rw [← append_assoc] at huv
  obtain ⟨rfl, hd⟩ := append_inj' huv rfl
  obtain ⟨front, rfl, hfront⟩ := hhead.exists_front
  have hfree : ';' ∉ front ++ [':'] := by
    intro hmem
    rcases mem_append.1 hmem with hmem | hmem
    · exact absurd (hfront _ hmem) (by decide)
    · exact absurd hmem (by decide)
  rw [hd, append_assoc, singleton_append] at hstarts
  have hinside : front ++ [':'] <+: v := Chars.prefix_of_notMem hfree hstarts
  exact h kind _ hhead (hinside.isInfix.trans ⟨u, [], by rw [append_nil]⟩)

theorem Entry.free (e : Entry) : Free e.written :=
  e.isGap.free.append (free_declaration e.headless)

theorem WrittenSection.free_inside (s : WrittenSection) : Free s.inside :=
  free_flatMap fun e _ => e.free

theorem matchesLoop_head {kind : SectionKind} {head word : List Char} (hhead : IsHead kind head)
    (hword : Free word) (text before rest : List Char) (fuel : Nat) :
    ∃ caught, headPattern.matchesLoop text (fuel + 1) false
        (.between before (word ++ (head ++ rest)) []) =
      ⟨text, (before ++ word).length, (before ++ word ++ head).length, caught⟩ ::
        headPattern.matchesLoop text fuel false (.between (before ++ word ++ head) rest []) := by
  have honly : ∀ w, Takes headPattern.node w → w <+: head ++ rest → w = head := by
    intro w hw hstarts
    obtain ⟨kind', hw⟩ := takes_headPattern.1 hw
    exact hhead.eq_of_prefix hw hstarts
  obtain ⟨caught, hscan⟩ := (hword (head ++ rest)).scan_eq_some isRegular_headNode
    (takes_headPattern.2 ⟨kind, hhead⟩) honly
  have hmoved : ((before ++ word).length == (before ++ word ++ head).length) = false := by
    have hlength := length_pos_iff.2 hhead.ne_nil
    simp only [beq_eq_false_iff_ne, length_append]
    omega
  refine ⟨caught, ?_⟩
  have hscan' : headPattern.scan text false (Spot.between before (word ++ (head ++ rest)) []).rest
      (.between before (word ++ (head ++ rest)) []) = _ := hscan
  rw [Regex.matchesLoop, hscan']
  dsimp only [Spot.between]
  rw [hmoved]
  rfl

theorem matchesLoop_free {word : List Char} (hword : Free word) (text before : List Char)
    (fuel : Nat) : headPattern.matchesLoop text fuel false (.between before word []) = [] := by
  refine Regex.matchesLoop_of_none ((scan_eq_none_iff isRegular_headNode).2 fun w hw => ?_) fuel
  obtain ⟨kind, hhead⟩ := takes_headPattern.1 hw
  exact (hword []).not_within hw hhead.ne_nil

theorem slice_append (cs part rest : List Char) :
    Chars.slice (cs ++ (part ++ rest)) cs.length (cs ++ part).length = part := by
  rw [Chars.slice, ← append_assoc, take_left, drop_left]

/-- Where no head starts in `word`, the heads found are those of the sections after it, and before
the first one stand only blanks. -/
theorem sectionsFrom_matchesLoop {gap : List Char} (hgap : IsGap gap)
    (sections : List WrittenSection) {text before word : List Char} {fuel : Nat}
    {ms : List Match} (hword : Free word) (hfuel : sections.length ≤ fuel)
    (htext : text = before ++ (word ++ (sections.flatMap WrittenSection.written ++ gap)))
    (hms : headPattern.matchesLoop text fuel false
      (.between before (word ++ (sections.flatMap WrittenSection.written ++ gap)) []) = ms) :
    sectionsFrom text ms = sections.map WrittenSection.read ∧
      Chars.trim (Chars.slice text before.length ((ms.head?.map (·.start)).getD text.length)) =
        Chars.trim word := by
  -- a section ends where the next head starts, so the place of the first head is carried along
  induction sections generalizing before word fuel ms with
  | nil =>
    rw [flatMap_nil, nil_append] at htext hms
    rw [matchesLoop_free (hword.append hgap.free)] at hms
    obtain rfl := hms
    have hslice : Chars.slice text before.length text.length = word ++ gap := by
      have hwhole := slice_append before (word ++ gap) []
      rwa [append_nil, ← htext] at hwhole
    refine ⟨rfl, ?_⟩
    rw [head?_nil, Option.map_none, Option.getD_none, hslice, Chars.trim_append_blank _ hgap]
  | cons s sections ih =>
    have hpos : fuel ≠ 0 := by
      rintro rfl
      exact Nat.not_succ_le_zero _ hfuel
    obtain ⟨fuel, rfl⟩ := Nat.exists_eq_succ_of_ne_zero hpos
    have hrest : word ++ ((s :: sections).flatMap WrittenSection.written ++ gap) =
        word ++ s.gap.toList ++ (s.head.toList ++
          (s.inside ++ (sections.flatMap WrittenSection.written ++ gap))) := by
      simp [WrittenSection.written]
    rw [hrest] at htext hms
    obtain ⟨caught, hstep⟩ := matchesLoop_head s.isHead (hword.append s.isGap.free) text before
      (s.inside ++ (sections.flatMap WrittenSection.written ++ gap)) fuel
    rw [hstep] at hms
    obtain rfl := hms
    have hinside : text = before ++ (word ++ s.gap.toList) ++ s.head.toList ++
        (s.inside ++ (sections.flatMap WrittenSection.written ++ gap)) := by
      rw [htext]
      simp only [append_assoc]
    obtain ⟨hsections, hbody⟩ := ih s.free_inside (Nat.le_of_succ_le_succ hfuel) hinside rfl
    have hwhole : Match.whole ⟨text, (before ++ (word ++ s.gap.toList)).length,
        (before ++ (word ++ s.gap.toList) ++ s.head.toList).length, caught⟩ = s.head := by
      change String.ofList (Chars.slice text _ _) = _
      rw [hinside, append_assoc, slice_append, String.ofList_toList]
    have hkind : kindOf s.head = s.kind := by
      rw [← kindOf_head s.isHead, String.ofList_toList]
    constructor
    · rw [sectionsFrom, hsections, hbody, hwhole, hkind]
      rfl
    · rw [head?_cons, Option.map_some, Option.getD_some]
      dsimp only
      rw [htext, slice_append, Chars.trim_append_blank _ s.isGap]

theorem length_le_flatMap {α : Type} {f : α → List Char} {xs : List α}
    (h : ∀ x ∈ xs, f x ≠ []) : xs.length ≤ (xs.flatMap f).length := by
  induction xs with
  | nil => exact Nat.le_refl 0
  | cons x xs ih =>
    have hx := length_pos_iff.2 (h x mem_cons_self)
    have hxs := ih fun y hy => h y (mem_cons_of_mem x hy)
    rw [flatMap_cons, length_cons, length_append]
    omega

theorem sectionsIn_body (c : WrittenClass) :
    sectionsIn (String.ofList c.body) = c.sections.map WrittenSection.read := by
  have hfree : Free [] := by
    intro after u v huv hv
    exact absurd (append_eq_nil_iff.1 huv).2 hv
  have hfuel : c.sections.length ≤ 2 * c.body.length + 2 := by
    have hlength : c.sections.length ≤ (c.sections.flatMap WrittenSection.written).length := by
      refine length_le_flatMap fun s _ h => ?_
      rw [WrittenSection.written, append_eq_nil_iff, append_eq_nil_iff] at h
      exact s.isHead.ne_nil h.2.1
    rw [WrittenClass.body, length_append]
    omega
  have htext : c.body =
      [] ++ ([] ++ (c.sections.flatMap WrittenSection.written ++ c.gap.toList)) := rfl
  rw [sectionsIn, String.toList_ofList, Regex.allMatches_eq]
  exact (sectionsFrom_matchesLoop c.isGap c.sections hfree hfuel htext rfl).1

theorem mapM_assign_sectionsFrom (classBody : List Char) (ms : List Match) (owner : String) :
    (sectionsFrom classBody ms).mapM (·.assign owner) =
      .ok ((sectionsFrom classBody ms).map fun s => { s with owner := some owner }) := by
  induction ms with
  | nil => rfl
  | cons m ms ih =>
    rw [sectionsFrom, mapM_cons, ih]
    rfl

theorem ofClass_of_search {name content : String} {r : Regex} {m : Match}
    (hread : Pattern.read spacedFlags (definitionPattern name) = .ok r)
    (hsearch : r.search content = some m) :
    ofClass name content =
      .ok ((sectionsIn ((bracePieces content m.stop none).headD "")).map fun s =>
        { s with owner := some name }) := by
  rw [spacedFlags] at hread
  rw [ofClass, hread]
  simp only [bind, Except.bind, hsearch]
  exact mapM_assign_sectionsFrom _ _ name

theorem ofClass_text (c : WrittenClass) :
    ofClass c.name c.text =
      .ok (c.sections.map fun s => { s.read with owner := some c.name }) := by
  obtain ⟨m, hsearch, hstop⟩ := search_definitionRegex (brace_notMem c.isIdentifier) c.noKeyword
    c.isOpening (c.body ++ '\x7d' :: c.after.toList)
  rw [← WrittenClass.text] at hsearch
  rw [ofClass_of_search (read_definitionPattern c.isIdentifier) hsearch, hstop, bracePieces_body,
    headD_cons, sectionsIn_body, map_map]
  rfl

/-- A written class is read back: there is a section for each one that was written, in order, with
its head and its declarations. -/
theorem ofClass_written (c : WrittenClass) :
    ∃ sections, ofClass c.name c.text = .ok sections ∧
      sections.map (fun s => (s.kind, s.head, s.owner, s.declarations)) =
        c.sections.map fun s => (s.kind, s.head, some c.name, s.entries.map Entry.declaration) := by
  refine ⟨_, ofClass_text c, ?_⟩
  rw [map_map]
  refine map_congr_left fun s _ => ?_
  have hdeclarations : declarations { s.read with owner := some c.name } = _ := declarations_read s
  rw [Function.comp_apply, hdeclarations]
  rfl

/-- An exported class with braces and semicolons inside of its declarations, an empty section and
another class after it. -/
def viewClass : WrittenClass where
  before := "namespace Gui \x7b\n"
  opening := "class GuiExport View: public QObject \x7b"
  name := "View"
  sections := [
    { gap := "\n"
      head := "public:"
      kind := .plain
      entries := [
        { gap := "\n  ", declaration := "View() \x7b log(\"a;\x7d\"); std::f(); \x7d" },
        { gap := "\n  ", declaration := "int size" }]
      isHead := @IsHead.access "public" [] (by decide) (by decide) },
    { gap := " "
      head := "protected Q_SIGNALS :"
      kind := .signals
      entries := [{ gap := "", declaration := "void changed(int a, int b)" }]
      isHead := @IsHead.marked "protected ".toList "Q_SIGNALS" .signals [' ']
        (@IsAccess.word "protected" [' '] (by decide) (by decide) (by decide)) (by decide)
        (by decide) },
    { gap := "\n"
      head := "private:"
      kind := .plain
      entries := []
      isHead := @IsHead.access "private" [] (by decide) (by decide) }]
  gap := "\n"
  after := ";\nclass Other \x7b public: int x; \x7d;"
  isOpening :=
    @IsOpening.mk "View".toList [' '] "GuiExport ".toList ": public QObject ".toList (by decide)
      (by decide)
      (@IsExport.word "GuiExport".toList [' '] (by decide) (all_eq_true.1 (by decide +kernel))
        (by decide) (by decide))
      (by decide +kernel)

theorem ofClass_written_view :
    ∃ sections, ofClass "View" ("namespace Gui \x7b\nclass GuiExport View: public QObject \x7b\n" ++
        "public:\n  View() \x7b log(\"a;\x7d\"); std::f(); \x7d;\n  int size; " ++
        "protected Q_SIGNALS :void changed(int a, int b);\nprivate:\n\x7d" ++
        ";\nclass Other \x7b public: int x; \x7d;") = .ok sections ∧
      sections.map (fun s => (s.kind, s.head, s.owner, s.declarations)) =
        [(.plain, "public:", some "View",
            ["View() \x7b log(\"a;\x7d\"); std::f(); \x7d", "int size"]),
          (.signals, "protected Q_SIGNALS :", some "View", ["void changed(int a, int b)"]),
          (.plain, "private:", some "View", [])] := by
  have htext : viewClass.text = "namespace Gui \x7b\nclass GuiExport View: public QObject \x7b\n" ++
      "public:\n  View() \x7b log(\"a;\x7d\"); std::f(); \x7d;\n  int size; " ++
      "protected Q_SIGNALS :void changed(int a, int b);\nprivate:\n\x7d" ++
      ";\nclass Other \x7b public: int x; \x7d;" := by decide +kernel
  rw [← htext]
  exact ofClass_written viewClass

end BindingStubs.ClassSection
