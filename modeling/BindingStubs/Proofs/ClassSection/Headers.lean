import BindingStubs.Proofs.ClassSection.Sections

set_option autoImplicit false

/-! # Classes of a header -/

namespace BindingStubs.ClassSection

open Pattern Source List

def IsMention (name w : List Char) : Prop :=
  ∃ gap front, gap ≠ [] ∧ IsGap gap ∧ IsExport front ∧ w = "class".toList ++ (gap ++ front) ++ name

def Mentions (name cs : List Char) : Prop := ∃ w, IsMention name w ∧ w <:+: cs

def mentionRegex (name : List Char) : Regex where
  node := sequence (keywordItems ++ literalItems spacedFlags name)
  captures := 0
  names := []

section
variable {name w word after : List Char}

theorem takes_mentionRegex : Takes (mentionRegex name).node w ↔ IsMention name w := by
  simp only [mentionRegex, takes_sequence_append, takes_keywordItems, takes_literal spacedFlags rfl]
  constructor
  · rintro ⟨_, _, ⟨gap, front, hne, hgap, hfront, rfl⟩, rfl, rfl⟩
    exact ⟨gap, front, hne, hgap, hfront, rfl⟩
  · rintro ⟨gap, front, hne, hgap, hfront, rfl⟩
    exact ⟨_, _, ⟨gap, front, hne, hgap, hfront, rfl⟩, rfl, rfl⟩

theorem isRegular_mentionRegex (name : List Char) : (mentionRegex name).node.isRegular = true := by
  refine isRegular_sequence (forall_mem_append.2 ⟨all_eq_true.1 (by decide), ?_⟩)
  intro item hitem
  obtain ⟨c, -, rfl⟩ := mem_map.1 hitem
  rfl

theorem mentions_iff : Mentions name w ↔ (mentionRegex name).search (String.ofList w) ≠ none := by
  rw [Ne, Regex.search_eq_none_iff (isRegular_mentionRegex name)]
  simp only [takes_mentionRegex, Mentions, not_forall, not_not, exists_prop]

instance : Decidable (Mentions name w) := decidable_of_iff _ mentions_iff.symm

theorem IsMention.ne_nil (h : IsMention name w) : w ≠ [] := by
  obtain ⟨gap, front, -, -, -, rfl⟩ := h
  exact cons_ne_nil _ _

theorem IsMention.notMem (h : IsMention name w) (hname : ∀ c ∈ name, Text.isNameChar c = true)
    {c : Char} (hc : isHeadChar c = false) (hc' : Text.isNameChar c = false) : c ∉ w := by
  have hword : ∀ {cs : List Char}, (∀ d ∈ cs, isHeadChar d = true) → c ∉ cs :=
    fun hcs hmem => Bool.false_ne_true (hc.symm.trans (hcs c hmem))
  have hname' : c ∉ name := fun hmem => Bool.false_ne_true (hc'.symm.trans (hname c hmem))
  obtain ⟨gap, front, -, hgap, hfront, rfl⟩ := h
  have hfront' : ∀ d ∈ front, isHeadChar d = true := by
    cases hfront with
    | none => exact forall_mem_nil _
    | word hne hisWord hgapNe hgap =>
      refine forall_mem_append.2 ⟨fun d hd => ?_, hgap.isHeadChar⟩
      exact Bool.or_eq_true_iff.2 (.inl (hisWord d hd))
  simp only [mem_append, not_or]
  exact ⟨⟨hword (all_eq_true.1 (by decide)), hword hgap.isHeadChar, hword hfront'⟩, hname'⟩

theorem isOpening_iff : IsOpening name w ↔
    ∃ mention bases, IsMention name mention ∧ '\x7b' ∉ bases ∧
      w = mention ++ (bases ++ ['\x7b']) := by
  constructor
  · rintro ⟨hne, hgap, hfront, hbases⟩
    exact ⟨_, _, ⟨_, _, hne, hgap, hfront, rfl⟩, hbases, rfl⟩
  · rintro ⟨_, bases, ⟨gap, front, hne, hgap, hfront, rfl⟩, hbases, rfl⟩
    exact ⟨hne, hgap, hfront, hbases⟩

theorem clear_of_not_mentions (hname : ∀ c ∈ name, Text.isNameChar c = true) {c : Char}
    (hc : isHeadChar c = false) (hc' : Text.isNameChar c = false) (hword : ¬ Mentions name word) :
    Clear (definitionRegex name).node (word ++ [c]) after := by
  intro u v huv hv w hw hstarts
  obtain ⟨v', rfl, rfl⟩ := exists_concat_of_append huv hv
  obtain ⟨mention, bases, hmention, -, rfl⟩ := isOpening_iff.1 (takes_definitionRegex.1 hw)
  rw [append_assoc v', singleton_append] at hstarts
  have hshort : mention <+: v' := Chars.prefix_of_notMem (hmention.notMem hname hc hc')
    ((prefix_append _ _).trans hstarts)
  exact hword ⟨mention, hmention, hshort.isInfix.trans (suffix_append u v').isInfix⟩

theorem scan_of_mentions (hname : ∀ c ∈ name, Text.isNameChar c = true)
    {text before front rest : List Char} (hfront : '\x7b' ∉ front) (h : Mentions name front) :
    ∃ start caught, (definitionRegex name).scan text false (front ++ '\x7b' :: rest)
        (.between before (front ++ '\x7b' :: rest) []) =
      some (start, .between (before ++ front ++ ['\x7b']) rest caught) := by
  have hbrace : '\x7b' ∉ name := fun h => absurd (hname _ h) (by decide)
  induction front generalizing before with
  | nil =>
    obtain ⟨w, hw, hinside⟩ := h
    exact absurd (infix_nil.1 hinside) hw.ne_nil
  | cons c front ih =>
    by_cases hhere : ∃ w, IsMention name w ∧ w <+: c :: front
    · obtain ⟨mention, hmention, bases, hsplit⟩ := hhere
      have hopening : IsOpening name (c :: front ++ ['\x7b']) := by
        refine isOpening_iff.2 ⟨mention, bases, hmention, fun hmem => ?_, ?_⟩
        · exact hfront (hsplit ▸ mem_append_right _ hmem)
        · rw [← hsplit, append_assoc]
      obtain ⟨caught, hrun⟩ : ∃ caught, run text (definitionRegex name).node
          (.between before (c :: front ++ ['\x7b'] ++ rest) []) some =
          some (.between (before ++ (c :: front ++ ['\x7b'])) rest caught) :=
        run_eq_some (isRegular_definitionRegex name) (takes_definitionRegex.2 hopening)
          fun w hw hstarts => hopening.eq_of_prefix hbrace (takes_definitionRegex.1 hw) hstarts
      rw [append_assoc, singleton_append, ← append_assoc] at hrun
      exact ⟨_, caught, Regex.scan_of_run hrun⟩
    · have hclear : Clear (definitionRegex name).node [c] (front ++ '\x7b' :: rest) := by
        intro u v huv hv w hw hstarts
        obtain ⟨rfl, rfl⟩ : u = [] ∧ v = [c] := by
          simpa [hv] using append_eq_singleton_iff.1 huv
        obtain ⟨mention, bases, hmention, -, rfl⟩ := isOpening_iff.1 (takes_definitionRegex.1 hw)
        refine hhere ⟨mention, hmention, Chars.prefix_of_notMem
          (hmention.notMem hname (c := '\x7b') (by decide) (by decide))
          ((prefix_append _ _).trans hstarts)⟩
      have hlater : Mentions name front := by
        obtain ⟨w, hw, hinside⟩ := h
        refine ⟨w, hw, (infix_cons_iff.1 hinside).resolve_left fun hstarts => ?_⟩
        exact hhere ⟨w, hw, hstarts⟩
      obtain ⟨start, caught, hscan⟩ := @ih (before ++ [c])
        (fun hmem => hfront (mem_cons_of_mem c hmem)) hlater
      refine ⟨start, caught, ?_⟩
      rw [append_assoc before, singleton_append] at hscan
      exact (hclear.scan (isRegular_definitionRegex name)).trans hscan

end

structure HeaderClass where
  gap : List Char
  blanks : List Char
  marker : List Char
  name : String
  bases : List Char
  body : Option (List Char)
  isGap : IsGap gap := by decide
  blanks_ne : blanks ≠ [] := by decide
  isBlanks : IsGap blanks := by decide
  isMarker : IsExport marker
  isIdentifier : Text.isIdentifier name = true := by decide
  wholeName : bases.head?.any Text.isWord = false := by decide
  noBrace : '\x7b' ∉ bases := by decide
  closed : Closed (body.getD []) := by decide

namespace HeaderClass

def head (e : HeaderClass) : List Char :=
  e.gap ++ ("class".toList ++ (e.blanks ++ e.marker) ++ e.name.toList ++ e.bases)

def inside (e : HeaderClass) : List Char := e.body.getD []

def tail (e : HeaderClass) : List Char :=
  if e.body.isSome then '\x7b' :: (e.inside ++ ['\x7d', ';']) else [';']

def text (e : HeaderClass) : List Char := e.head ++ e.tail

end HeaderClass

/-- The class whose body is read: the first one that has a body, from the first one on whose head
mentions the name. -/
def readFor (name : List Char) (classes : List HeaderClass) : Option HeaderClass :=
  (classes.dropWhile fun e => ¬ Mentions name e.head).find? fun e => e.body.isSome

section
variable {name : List Char} {e : HeaderClass} {classes : List HeaderClass}

theorem HeaderClass.brace_notMem_head (e : HeaderClass) : '\x7b' ∉ e.head := by
  simp [head, e.isGap.notMem (c := '\x7b') (by decide), e.isBlanks.notMem (c := '\x7b') (by decide),
    e.isMarker.notMem, brace_notMem e.isIdentifier, e.noBrace]

theorem HeaderClass.mentions_head (h : name <+: e.name.toList) : Mentions name e.head := by
  obtain ⟨more, hmore⟩ := h
  refine ⟨_, ⟨e.blanks, e.marker, e.blanks_ne, e.isBlanks, e.isMarker, rfl⟩, e.gap,
    more ++ e.bases, ?_⟩
  rw [head, ← hmore]
  simp only [append_assoc]

theorem HeaderClass.clear_text (hname : ∀ c ∈ name, Text.isNameChar c = true)
    (hhead : ¬ Mentions name e.head) (hinside : ¬ Mentions name e.inside) (after : List Char) :
    Clear (definitionRegex name).node e.text after := by
  have hmark {word after : List Char} {c : Char} (hc : isHeadChar c = false)
      (hc' : Text.isNameChar c = false) (hword : ¬ Mentions name word) :
      Clear (definitionRegex name).node (word ++ [c]) after :=
    clear_of_not_mentions hname hc hc' hword
  have hempty : ¬ Mentions name [] := fun ⟨w, hw, h⟩ => hw.ne_nil (infix_nil.1 h)
  rw [text, tail]
  split
  · have hsplit : e.head ++ '\x7b' :: (e.inside ++ ['\x7d', ';']) =
        (e.head ++ ['\x7b']) ++ ((e.inside ++ ['\x7d']) ++ ([] ++ [';'])) := by simp
    rw [hsplit]
    exact (hmark (by decide) (by decide) hhead).append
      ((hmark (by decide) (by decide) hinside).append (hmark (by decide) (by decide) hempty))
  · exact hmark (by decide) (by decide) hhead

theorem exists_front {f : HeaderClass} (h : classes.find? (fun e => e.body.isSome) = some f)
    (rest : List Char) :
    ∃ front after, classes.flatMap HeaderClass.text ++ rest =
        front ++ '\x7b' :: (f.inside ++ '\x7d' :: after) ∧ '\x7b' ∉ front ∧
      ∀ e ∈ classes.head?, e.head <+: front := by
  obtain ⟨hf, declared, others, rfl, hdeclared⟩ := find?_eq_some_iff_append.1 h
  have htext : ∀ e ∈ declared, e.text = e.head ++ [';'] := by
    intro e he
    have hnone : ¬ e.body.isSome = true := by simpa using hdeclared e he
    rw [HeaderClass.text, HeaderClass.tail, if_neg hnone]
  refine ⟨declared.flatMap HeaderClass.text ++ f.head,
    ';' :: (others.flatMap HeaderClass.text ++ rest), ?_, ?_, ?_⟩
  · simp [HeaderClass.text, HeaderClass.tail, hf]
  · rw [mem_append, mem_flatMap, not_or]
    refine ⟨?_, f.brace_notMem_head⟩
    rintro ⟨e, he, hmem⟩
    rw [htext e he, mem_append] at hmem
    exact hmem.elim e.brace_notMem_head (by decide)
  · intro e he
    cases declared with
    | nil =>
      obtain rfl : f = e := by simpa using he
      exact prefix_refl f.head
    | cons a declared =>
      obtain rfl : a = e := by simpa using he
      rw [flatMap_cons, HeaderClass.text, append_assoc, append_assoc]
      exact prefix_append _ _

theorem scan_header (hname : ∀ c ∈ name, Text.isNameChar c = true) {f : HeaderClass}
    (h : readFor name classes = some f)
    (hbodies : ∀ e ∈ classes.takeWhile (fun e => ¬ Mentions name e.head), ¬ Mentions name e.inside)
    (text pre rest : List Char) :
    ∃ start front after caught, pre ++ (classes.flatMap HeaderClass.text ++ rest) =
        front ++ (f.inside ++ '\x7d' :: after) ∧
      (definitionRegex name).scan text false (classes.flatMap HeaderClass.text ++ rest)
          (.between pre (classes.flatMap HeaderClass.text ++ rest) []) =
        some (start, .between front (f.inside ++ '\x7d' :: after) caught) := by
  induction classes generalizing pre with
  | nil => cases h
  | cons e classes ih =>
    by_cases hmentions : Mentions name e.head
    · rw [readFor, dropWhile_cons_of_neg (by simpa using hmentions)] at h
      obtain ⟨front, after, hsplit, hfree, hstarts⟩ := exists_front h rest
      obtain ⟨w, hw, hinside⟩ := hmentions
      obtain ⟨start, caught, hscan⟩ := scan_of_mentions hname hfree
        ⟨w, hw, hinside.trans (hstarts e rfl).isInfix⟩
      refine ⟨start, pre ++ front ++ ['\x7b'], after, caught, ?_, hsplit ▸ hscan⟩
      rw [hsplit]
      simp
    · rw [readFor, dropWhile_cons_of_pos (by simpa using hmentions)] at h
      rw [takeWhile_cons_of_pos (by simpa using hmentions), forall_mem_cons] at hbodies
      obtain ⟨start, front, after, caught, hsplit, hscan⟩ := ih h hbodies.2 (pre ++ e.text)
      have hclear := HeaderClass.clear_text hname hmentions hbodies.1
        (classes.flatMap HeaderClass.text ++ rest)
      rw [flatMap_cons, append_assoc, hclear.scan (isRegular_definitionRegex name),
        ← append_assoc pre]
      exact ⟨start, front, after, caught, hsplit, hscan⟩

theorem readFor_concat {before : List HeaderClass} {d : HeaderClass} (hd : d.body.isSome = true)
    (hmentions : Mentions name d.head) :
    readFor name (before ++ [d]) =
      some (((before.dropWhile fun e => ¬ Mentions name e.head).find? fun e => e.body.isSome).getD
        d) := by
  rw [readFor, dropWhile_append]
  split
  case isTrue hempty =>
    rw [List.isEmpty_iff.1 hempty, dropWhile_cons_of_neg (by simpa using hmentions)]
    simp [hd]
  case isFalse =>
    rw [find?_append, find?_singleton, if_pos hd]
    cases List.find? _ _ <;> rfl

end

theorem ofClass_of_readFor {name : String} (hname : Text.isIdentifier name = true)
    {classes : List HeaderClass} {e : HeaderClass} (h : readFor name.toList classes = some e)
    (hbodies : ∀ f ∈ classes.takeWhile (fun f => ¬ Mentions name.toList f.head),
      ¬ Mentions name.toList f.inside) (rest : List Char) :
    ofClass name (String.ofList (classes.flatMap HeaderClass.text ++ rest)) =
      .ok ((sectionsIn (String.ofList e.inside)).map fun s => { s with owner := some name }) := by
  obtain ⟨start, front, after, caught, hsplit, hscan⟩ := scan_header
    (fun c hc => isNameChar_of_mem hname hc) h hbodies (classes.flatMap HeaderClass.text ++ rest) []
    rest
  obtain ⟨m, hsearch, hstop⟩ : ∃ m, (definitionRegex name.toList).search
      (String.ofList (classes.flatMap HeaderClass.text ++ rest)) = some m ∧
        m.stop = front.length := by
    rw [Regex.search_eq, hscan]
    exact ⟨_, rfl, rfl⟩
  rw [nil_append] at hsplit
  rw [ofClass_of_search (read_definitionPattern hname) hsearch, hstop, hsplit, HeaderClass.inside,
    bracePieces_closed e.closed, headD_cons]

/-- Asked for a class of a header, the sections of the first body from the first mention of its name
on are given. So they are its own exactly if no class with a body stands from there on before it. -/
theorem ofClass_header (before : List HeaderClass) (d : HeaderClass) (rest : List Char)
    (hd : d.body.isSome = true)
    (hnames : ∀ e ∈ before, e.body.isSome = true → e.name ≠ d.name)
    (hbodies : ∀ e ∈ before, ¬ Mentions d.name.toList e.inside) :
    ∃ e, readFor d.name.toList (before ++ [d]) = some e ∧
      ofClass d.name (String.ofList ((before ++ [d]).flatMap HeaderClass.text ++ rest)) =
        .ok ((sectionsIn (String.ofList e.inside)).map fun s =>
          { s with owner := some d.name }) ∧
      (e = d ↔ ∀ f ∈ before.dropWhile (fun f => ¬ Mentions d.name.toList f.head),
        f.body = none) := by
  have hmentions : Mentions d.name.toList d.head :=
    HeaderClass.mentions_head (prefix_refl _)
  have hearly : ∀ f ∈ (before ++ [d]).takeWhile (fun f => ¬ Mentions d.name.toList f.head),
      ¬ Mentions d.name.toList f.inside := by
    intro f hf
    rcases mem_append.1 (takeWhile_subset _ hf) with hbefore | hlast
    · exact hbodies f hbefore
    · rw [mem_singleton.1 hlast] at hf
      exact absurd hmentions (by simpa using mem_takeWhile_imp hf)
  have hread := @readFor_concat _ before _ hd hmentions
  refine ⟨_, hread, ofClass_of_readFor d.isIdentifier hread hearly rest, ?_⟩
  cases hfind : List.find? _ (before.dropWhile _) with
  | none =>
    rw [Option.getD_none, eq_self, true_iff]
    intro f hf
    simpa using find?_eq_none.1 hfind f hf
  | some f =>
    have hf := mem_of_find?_eq_some hfind
    have hsome := find?_some hfind
    have hne : f ≠ d := by
      rintro rfl
      exact hnames f (dropWhile_subset _ hf) hsome rfl
    rw [Option.getD_some, eq_false hne, false_iff]
    intro hnone
    rw [hnone f hf] at hsome
    cases hsome

theorem isGap_line : IsGap ['\n'] := by decide

theorem isGap_blank : IsGap [' '] := by decide

def plainClass (name : String) (body : Option (List Char)) (hname : Text.isIdentifier name = true)
    (hbody : Closed (body.getD [])) : HeaderClass where
  gap := ['\n']
  blanks := [' ']
  marker := []
  name := name
  bases := []
  body := body
  isGap := isGap_line
  isBlanks := isGap_blank
  isMarker := .none
  isIdentifier := hname
  closed := hbody

def beforeScene : List HeaderClass :=
  [plainClass "Other" (some " public: int b; ".toList) (by decide) (by decide),
    plainClass "ScenePart" none (by decide) (by decide),
    plainClass "Scene" none (by decide) (by decide)]

theorem ofClass_header_declared :
    ofClass "Scene" ("\nclass Other\x7b public: int b; \x7d;\nclass ScenePart;\nclass Scene;" ++
        "\nclass Scene\x7b public: int a; \x7d;\n") =
      .ok ((sectionsIn " public: int a; ").map fun s => { s with owner := some "Scene" }) := by
  obtain ⟨e, -, hread, hown⟩ := ofClass_header beforeScene
    (plainClass "Scene" (some " public: int a; ".toList) (by decide) (by decide)) ['\n'] rfl
    (by decide) (by decide +kernel)
  obtain rfl := hown.2 (by decide +kernel)
  have htext : String.ofList ((beforeScene ++ [plainClass "Scene" (some " public: int a; ".toList)
      (by decide) (by decide)]).flatMap HeaderClass.text ++ ['\n']) =
      "\nclass Other\x7b public: int b; \x7d;\nclass ScenePart;\nclass Scene;" ++
        "\nclass Scene\x7b public: int a; \x7d;\n" := by decide +kernel
  rw [htext] at hread
  exact hread

/-- A declaration or a longer name before another class make its body be read. -/
theorem ofClass_other :
    ((ofClass "A" ("class A;\nclass B \x7b\npublic:\n  int b;\n\x7d;\n" ++
        "class A \x7b\npublic:\n  int a;\n\x7d;\n")).toOption.map (·.map (·.body)) =
      some ["int b;"]) ∧
    ((ofClass "View" ("class View3D \x7b\npublic:\n  int b;\n\x7d;\n" ++
        "class View \x7b\npublic:\n  int a;\n\x7d;\n")).toOption.map (·.map (·.body)) =
      some ["int b;"]) := by
  decide +kernel

end BindingStubs.ClassSection
