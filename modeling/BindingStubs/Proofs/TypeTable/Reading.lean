import BindingStubs.Proofs.Pattern.Marks
import BindingStubs.Proofs.Steps
import BindingStubs.Proofs.Text.Blanks
import BindingStubs.Proofs.Text.Replacing
import BindingStubs.TypeTable.Basic

set_option autoImplicit false

/-! # Reading type tables -/

namespace BindingStubs.TypeTable

open Pattern List

def isIdChar (c : Char) : Bool := Text.isWord c || c == ':'

abbrev IsIdText (s : String) : Prop := ∀ c ∈ s.toList, isIdChar c = true

def idNode : Node :=
  .seq (.set { items := [.kind .word false false] })
    (.rounds (.set { items := [.kind .word false false, .char 58, .char 32] }) 1 none .least)

theorem initPattern_node : initPattern.node =
    .seq (.capture 1 idNode) (sequence (gapItem :: literalItems {} "::init()".toList)) := by
  decide +kernel

theorem goes_idNode : idNode.Goes fun c => isIdChar c = true ∨ c = ' ' := by
  have hcode : ∀ {c d : Char}, d.toNat = c.toNat → c = d := fun h => Char.toNat_inj.1 h.symm
  refine ⟨fun c hc => ?_, fun c hc => ?_⟩
  · simp only [has_set, has_kind, CharKind.has, any_cons, any_nil] at hc
    simp_all [isIdChar]
  · simp only [has_set, has_kind, has_char, CharKind.has, any_cons, any_nil] at hc
    rcases (by simpa using hc) with hword | hcolon | hblank
    · exact .inl (by simp [isIdChar, hword])
    · exact .inl (by simp [isIdChar, hcode (d := ':') hcolon])
    · exact .inr (hcode (d := ' ') hblank)

theorem isIdChar_of_mem_group {text : List Char} {found : Nat × Spot}
    (h : Reached initPattern text found) {c : Char}
    (hc : c ∈ ((Regex.toMatch text found).group 1).toList) : isIdChar c = true ∨ c = ' ' := by
  obtain ⟨before, after, caught, next, htext, hnext, hrun, -⟩ := h
  rw [initPattern_node, run_seq, run_capture] at hrun
  obtain ⟨u, rest, caught', rfl, hu, hrun⟩ := exists_goes_of_run goes_idNode hrun
  change run text (sequence (gapItem :: literalItems {} "::init()".toList))
    (.between (before ++ u) rest ((1, before.length, (before ++ u).length) :: _)) next = _ at hrun
  rw [run_gap_cons] at hrun
  obtain ⟨v, rest, rfl, -, hrun⟩ := longest_eq_some hrun
  by_cases hliteral : "::init()".toList <+: rest
  · obtain ⟨rest, rfl⟩ := hliteral
    rw [run_literal_append] at hrun
    have hgroup : (Regex.toMatch text found).group? 1 = some (String.ofList u) := by
      rw [Regex.toMatch, hnext _ _ hrun]
      exact group?_of_caught htext 1 _ _
    rw [Match.group, hgroup] at hc
    exact hu c (by simpa using hc)
  · rw [run_literal_eq_none hliteral] at hrun
    cases hrun

theorem isIdText_of_mem_idsIn {content id : String} (h : id ∈ idsIn content) : IsIdText id := by
  obtain ⟨m, hm, rfl⟩ := mem_map.1 h
  obtain ⟨found, hfound, rfl⟩ := exists_reached_of_mem_allMatches hm
  intro c hc
  rw [Text.replace, String.toList_ofList] at hc
  obtain ⟨hmem, hne⟩ := mem_filter.1 (Chars.replace_singleton ' ' _ ▸ hc)
  exact (isIdChar_of_mem_group hfound hmem).resolve_right (by simpa using hne)

theorem isIdText_of_mem_collectIds {tree : SourceTree} {paths : List Path} {ids : List String}
    (h : collectIds tree paths = .ok ids) {id : String} (hid : id ∈ ids) : IsIdText id := by
  induction paths generalizing ids with
  | nil =>
    cases h
    cases hid
  | cons p paths ih =>
    obtain ⟨content, -, h⟩ := Fault.bind_eq_ok.1 h
    obtain ⟨others, hothers, h⟩ := Fault.bind_eq_ok.1 h
    cases h
    rcases mem_append.1 hid with hid | hid
    · exact isIdText_of_mem_idsIn hid
    · exact ih hothers hid

theorem IsIdText.within {s part : String} (hs : IsIdText s) (h : Text.Within part s) :
    IsIdText part :=
  fun c hc => hs c (h.subset hc)

theorem IsIdText.flat {id : String} (h : IsIdText id) : IsIdText (Text.replace id "::" "_") := by
  intro c hc
  rw [Text.replace, String.toList_ofList] at hc
  rcases Chars.mem_of_mem_replace (by decide) hc with hc | hc
  · exact h c hc
  · obtain rfl : c = '_' := by simpa using hc.1
    decide +kernel

theorem id_of_slot? {id : String} {e : TypeEntry} (h : slot? id = some e) : e.id = id := by
  rw [slot?] at h
  split at h
  · cases h
    rfl
  · split_ifs at h
    cases h
    rfl

structure IsPlain (e : TypeEntry) : Prop where
  className : IsIdText e.className
  name : IsIdText e.name
  id : IsIdText e.id

theorem isPlain_of_slot? {id : String} {e : TypeEntry} (h : slot? id = some e)
    (hid : IsIdText id) : IsPlain e := by
  have hcommon : IsIdText commonClass := all_eq_true.1 (by decide +kernel)
  rw [slot?] at h
  split at h
  · cases h
    exact ⟨hcommon, hid.flat, hid⟩
  next className name hcut =>
    split_ifs at h
    cases h
    have hwithin := Text.Within.cutFirst hcut (.refl _)
    exact ⟨hid.flat.within hwithin.1, hid.flat.within hwithin.2, hid⟩

theorem exists_slot {id : String} (h : Text.before (Text.replace id "::" "_") "_" ≠ "") :
    ∃ e, slot? id = some e := by
  rw [slot?]
  split
  · exact ⟨_, rfl⟩
  next className name hcut =>
    rw [Text.before, hcut] at h
    exact ⟨_, if_neg (by simpa using h)⟩

open Chars (unlines EndsDark)

structure ClassBody where
  name : String
  members : List (String × String)

/-- An assignment of a text between quotes, none of whose characters has a meaning of its own. -/
def readMember? (line : List Char) : Option (String × String) := do
  let (name, rest) ← Chars.cutFirst? line [' ']
  let value := (rest.drop 3).dropLast
  if rest = "= '".toList ++ (value ++ "'".toList) ∧ ∀ c ∈ value, c ∉ "'\\".toList then
    return (String.ofList name, String.ofList value)
  else none

/-- The assignments before the first class statement, and the classes from there on. -/
def bodiesFrom : List (List Char) → Option (List (String × String) × List ClassBody)
  | [] => some ([], [])
  | line :: others => do
    let (members, classes) ← bodiesFrom others
    match line with
    | [] | '#' :: _ => return (members, classes)
    | ' ' :: ' ' :: ' ' :: ' ' :: assignment => return ((← readMember? assignment) :: members, classes)
    | _ =>
      let name := (line.drop 6).dropLast
      if line = "class ".toList ++ (name ++ ":".toList) ∧ members ≠ [] then
        return ([], ⟨String.ofList name, members⟩ :: classes)
      else none

def readBodies? (text : String) : Option (List ClassBody) := do
  let (members, classes) ← bodiesFrom (Chars.split text.toList ['\n'])
  if members = [] then return classes else none

theorem bodiesFrom_append_congr {others others' : List (List Char)}
    (h : bodiesFrom others = bodiesFrom others') (lines : List (List Char)) :
    bodiesFrom (lines ++ others) = bodiesFrom (lines ++ others') := by
  induction lines with
  | nil => exact h
  | cons line lines ih => rw [cons_append, cons_append, bodiesFrom, bodiesFrom, ih]

theorem bodiesFrom_gaps {gaps : List (List Char)} (h : ∀ gap ∈ gaps, gap = []) :
    bodiesFrom gaps = some ([], []) := by
  induction gaps with
  | nil => rfl
  | cons gap gaps ih =>
    obtain ⟨rfl, hgaps⟩ := forall_mem_cons.1 h
    rw [bodiesFrom, ih hgaps]
    rfl

def assignment (e : TypeEntry) : List Char := (e.name ++ " = '" ++ e.id ++ "'").toList

def classLines (name : String) (entries : List TypeEntry) : List (List Char) :=
  ("class " ++ name ++ ":").toList :: entries.map fun e => "    ".toList ++ assignment e

theorem isBlank_of_isIdChar {c : Char} (h : isIdChar c = true) : Text.isBlank c = false := by
  by_contra hblank
  rw [Bool.not_eq_false] at hblank
  simp only [isIdChar, Text.not_isWord_of_isBlank hblank, Bool.false_or, beq_iff_eq] at h
  subst h
  exact absurd hblank (by decide)

theorem isLineEnd_of_isBlank {c : Char} (h : Text.isBlank c = false) : Text.isLineEnd c = false := by
  simp only [Text.isBlank, Text.isLineEnd] at h ⊢
  split at h <;> simp at h ⊢ <;> omega

theorem readMember?_assignment {e : TypeEntry} (h : IsPlain e) :
    readMember? (assignment e) = some (e.name, e.id) := by
  have hname : ' ' ∉ e.name.toList := by
    intro hmem
    exact absurd (isBlank_of_isIdChar (h.name _ hmem)) (by decide)
  have hid : ∀ c ∈ e.id.toList, c ∉ "'\\".toList := by
    intro c hc hquote
    have hplain := h.id c hc
    revert hplain
    rcases (by simpa using hquote : c = _ ∨ c = _) with rfl | rfl <;> decide +kernel
  have hline : assignment e = e.name.toList ++ ' ' :: ("= '".toList ++ (e.id.toList ++ "'".toList)) := by
    simp [assignment]
  have hvalue : (("= '".toList ++ (e.id.toList ++ "'".toList)).drop 3).dropLast = e.id.toList :=
    dropLast_concat
  rw [readMember?, hline, Chars.cutFirst?_of_notMem hname]
  dsimp only [Option.bind_eq_bind, Option.bind_some]
  rw [hvalue, if_pos ⟨rfl, hid⟩, String.ofList_toList, String.ofList_toList]
  rfl

variable {entries : List TypeEntry}

theorem bodiesFrom_members (h : ∀ e ∈ entries, IsPlain e) {others : List (List Char)}
    {members : List (String × String)} {classes : List ClassBody}
    (hothers : bodiesFrom others = some (members, classes)) :
    bodiesFrom (entries.map (fun e => "    ".toList ++ assignment e) ++ others) =
      some (entries.map (fun e => (e.name, e.id)) ++ members, classes) := by
  induction entries with
  | nil => exact hothers
  | cons e entries ih =>
    obtain ⟨he, hentries⟩ := forall_mem_cons.1 h
    rw [map_cons, cons_append, bodiesFrom, ih hentries]
    change ((readMember? (assignment e)).bind fun m => some (m :: _, classes)) = _
    rw [readMember?_assignment he]
    rfl

theorem bodiesFrom_classLines (name : String) (hne : entries ≠ []) (h : ∀ e ∈ entries, IsPlain e)
    {others : List (List Char)} {classes : List ClassBody}
    (hothers : bodiesFrom others = some ([], classes)) :
    bodiesFrom (classLines name entries ++ others) =
      some ([], ⟨name, entries.map fun e => (e.name, e.id)⟩ :: classes) := by
  have hline : ("class " ++ name ++ ":").toList = "class ".toList ++ (name.toList ++ ":".toList) := by
    simp
  have hname : (("class ".toList ++ (name.toList ++ ":".toList)).drop 6).dropLast = name.toList :=
    dropLast_concat
  rw [classLines, hline, cons_append, bodiesFrom, bodiesFrom_members h hothers]
  change (if _ = "class ".toList ++ (_ ++ _) ∧ _ ≠ [] then some _ else none) = _
  rw [hname, if_pos ⟨rfl, by simpa using hne⟩, String.ofList_toList, append_nil]

def body (t : TypeTable) (c : String) : ClassBody := ⟨c, (t.entriesOf c).map fun e => (e.name, e.id)⟩

variable {t : TypeTable}

theorem bodiesFrom_tables {classes : List String}
    (h : ∀ c ∈ classes, t.entriesOf c ≠ [] ∧ ∀ e ∈ t.entriesOf c, IsPlain e) :
    bodiesFrom (classes.flatMap fun c => classLines c (t.entriesOf c) ++ [[], []]) =
      some ([], classes.map t.body) := by
  induction classes with
  | nil => rfl
  | cons c classes ih =>
    obtain ⟨⟨hne, hc⟩, hclasses⟩ := forall_mem_cons.1 h
    rw [flatMap_cons, append_assoc]
    refine bodiesFrom_classLines c hne hc ?_
    rw [cons_append, cons_append, nil_append, bodiesFrom, bodiesFrom, ih hclasses]
    rfl

theorem isLineEnd_of_mem_assignment {e : TypeEntry} (h : IsPlain e) {c : Char}
    (hc : c ∈ assignment e) : Text.isLineEnd c = false := by
  have hmarks : (" = '".toList.all fun c => !Text.isLineEnd c) = true := by decide
  simp only [assignment, String.toList_append, mem_append] at hc
  rcases hc with ((hc | hc) | hc) | hc
  · exact isLineEnd_of_isBlank (isBlank_of_isIdChar (h.name c hc))
  · simpa using all_eq_true.1 hmarks c hc
  · exact isLineEnd_of_isBlank (isBlank_of_isIdChar (h.id c hc))
  · simpa using all_eq_true.1 hmarks c (by simp_all)

theorem toList_classText (name : String) (hne : entries ≠ []) (h : ∀ e ∈ entries, IsPlain e) :
    (classText name entries).toList = unlines (classLines name entries ++ [[], []]) := by
  have hindent : (Text.indent (Text.join "\n" (entries.map fun e =>
      e.name ++ " = '" ++ e.id ++ "'"))).toList ++ ['\n'] =
        unlines (entries.map fun e => "    ".toList ++ assignment e) := by
    rw [Text.indent, Text.indentBy, String.toList_ofList, Text.join, String.toList_intercalate,
      map_map]
    refine (Chars.indentWith_intercalate _ (by simpa using hne) ?_ ?_).trans
      (congrArg unlines map_map)
    · intro piece hpiece c hc
      obtain ⟨e, he, rfl⟩ := mem_map.1 hpiece
      exact isLineEnd_of_mem_assignment (h e he) hc
    · intro piece hpiece
      obtain ⟨e, -, rfl⟩ := mem_map.1 hpiece
      exact ⟨'=', by simp, by decide⟩
  rw [classLines, cons_append, Chars.unlines_cons, Chars.unlines_append, ← hindent]
  simp [classText, unlines]

theorem mem_entriesOf {c : String} {e : TypeEntry} :
    e ∈ t.entriesOf c ↔ e ∈ t.entries ∧ e.className = c := by
  simp [entriesOf]

theorem mem_classes {c : String} : c ∈ t.classes ↔ ∃ e ∈ t.entries, e.className = c := by
  rw [classes, mem_eraseDups, mem_map]

theorem entriesOf_ne_nil {c : String} (hc : c ∈ t.classes) : t.entriesOf c ≠ [] := by
  obtain ⟨e, he, rfl⟩ := mem_classes.1 hc
  exact ne_nil_of_mem (mem_entriesOf.2 ⟨he, rfl⟩)

theorem toList_text (h : ∀ e ∈ t.entries, IsPlain e) :
    t.text.toList = Chars.trimEnd (unlines ("# fmt: off".toList ::
      t.classes.flatMap fun c => classLines c (t.entriesOf c) ++ [[], []])) ++ ['\n'] := by
  have hclasses : (t.classes.map fun c => classText c (t.entriesOf c)).flatMap String.toList =
      unlines (t.classes.flatMap fun c => classLines c (t.entriesOf c) ++ [[], []]) := by
    rw [flatMap_map, unlines, flatMap_assoc]
    exact flatMap_congr fun c hc => toList_classText c (entriesOf_ne_nil hc)
      fun e he => h e (mem_entriesOf.1 he).1
  rw [text, Text.trimEnd, String.toList_append, String.toList_ofList, String.toList_append,
    String.toList_join, hclasses, Chars.unlines_cons]
  simp

theorem solid_of_mem_classLines {name : String} (hname : IsIdText name)
    (h : ∀ e ∈ entries, IsPlain e) {line : List Char} (hline : line ∈ classLines name entries) :
    EndsDark line ∧ '\n' ∉ line := by
  rcases mem_cons.1 hline with rfl | hline
  · refine ⟨⟨("class " ++ name).toList, ':', by simp, by decide⟩, ?_⟩
    have hfree : '\n' ∉ name.toList := by
      intro hmem
      exact absurd (isBlank_of_isIdChar (hname _ hmem)) (by decide)
    simp [hfree]
  · obtain ⟨e, he, rfl⟩ := mem_map.1 hline
    refine ⟨⟨"    ".toList ++ (e.name ++ " = '" ++ e.id).toList, Char.ofNat 39, by simp [assignment],
      by decide⟩, ?_⟩
    have hfree : '\n' ∉ assignment e := by
      intro hmem
      exact absurd (isLineEnd_of_mem_assignment (h e he) hmem) (by decide)
    simp [hfree]

theorem readBodies?_text (h : ∀ e ∈ t.entries, IsPlain e) :
    readBodies? t.text = some (t.classes.map t.body) := by
  have hplain : ∀ c ∈ t.classes, t.entriesOf c ≠ [] ∧ ∀ e ∈ t.entriesOf c, IsPlain e :=
    fun c hc => ⟨entriesOf_ne_nil hc, fun e he => h e (mem_entriesOf.1 he).1⟩
  have hsolid : ∀ line ∈ t.classes.flatMap fun c => classLines c (t.entriesOf c) ++ [[], []],
      line = [] ∨ EndsDark line ∧ '\n' ∉ line := by
    intro line hline
    obtain ⟨c, hc, hline⟩ := mem_flatMap.1 hline
    rcases mem_append.1 hline with hline | hline
    · obtain ⟨e, he⟩ := exists_mem_of_ne_nil _ (hplain c hc).1
      obtain ⟨hmem, rfl⟩ := mem_entriesOf.1 he
      exact .inr (solid_of_mem_classLines (h e hmem).className (hplain _ hc).2 hline)
    · exact .inl (by simpa using hline)
  have hfirst : EndsDark "# fmt: off".toList := ⟨"# fmt: of".toList, 'f', rfl, by decide⟩
  obtain ⟨kept, gaps, hkept, hgaps, htrim⟩ := Chars.exists_trimEnd_unlines hfirst
    fun line hline => (hsolid line hline).imp_right And.left
  have hends : ∀ line ∈ "# fmt: off".toList :: kept, '\n' ∉ line := by
    refine forall_mem_cons.2 ⟨by decide, fun line hline => ?_⟩
    rcases hsolid line (hkept ▸ mem_append_left gaps hline) with rfl | hline
    · exact not_mem_nil
    · exact hline.2
  -- The lines that were trimmed away hold nothing to read.
  have hgap : bodiesFrom [[]] = bodiesFrom gaps := (bodiesFrom_gaps hgaps).symm
  rw [readBodies?, toList_text h, htrim, Chars.split_unlines hends, bodiesFrom_append_congr hgap,
    cons_append, bodiesFrom, ← hkept, bodiesFrom_tables hplain]
  rfl

end BindingStubs.TypeTable
