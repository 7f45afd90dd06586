import BindingStubs.Implementation
import BindingStubs.Proofs.Pattern.Marks
import BindingStubs.Proofs.Source.Block

set_option autoImplicit false

/-! # Which body is found -/

namespace BindingStubs.Source

open Pattern ClassSection List

def objectItems : List Item :=
  gapItem :: markItem '(' :: gapItem :: (literalItems {} "PyObject".toList ++
    [gapItem, markItem '*'])

def lastItems : List Item := [⟨.repeated, .rounds (.set (allBut '\n')) 0 none .least⟩, markItem ')']

def anyItems : List Item :=
  [gapItem, markItem '(', ⟨.repeated, .rounds (.set (allBut ')')) 0 none .most⟩, markItem ')']

set_option maxRecDepth 100000 in
theorem readItems_objectText (n : Nat) (read : List Written) :
    (readItems (n + 40) 0 true read).run
        { rest := tokens "\\s*\\(\\s*PyObject\\s*\\*.*?\\)".toList } =
      .ok (itemsOf ((objectItems ++ lastItems).reverse.map .item ++ read), { rest := [] }) := by
  cbv

set_option maxRecDepth 100000 in
theorem readItems_anyText (n : Nat) (read : List Written) :
    (readItems (n + 20) 0 true read).run { rest := tokens "\\s*\\([^)]*\\)".toList } =
      .ok (itemsOf (anyItems.reverse.map .item ++ read), { rest := [] }) := by
  cbv

def objectRegex (name : List Char) : Regex where
  node := sequence (literalItems {} name ++ (objectItems ++ lastItems))
  captures := 0
  names := []

theorem read_objectPattern {name : String} (hname : IsWordName name.toList) :
    Pattern.read {} (name ++ "\\s*\\(\\s*PyObject\\s*\\*.*?\\)") = .ok (objectRegex name.toList) :=
  read_name_append 40 hname.ne_nil (fun c hc => notMem_specialChars (hname.isWord c hc)) (by decide)
    (by decide) readItems_objectText rfl rfl rfl rfl rfl

theorem read_anyPattern {name : String} (hne : name.toList ≠ [])
    (hname : ∀ c ∈ name.toList, c ∉ specialChars) :
    ∃ r, Pattern.read {} (name ++ "\\s*\\([^)]*\\)") = .ok r :=
  ⟨_, read_name_append 20 hne hname (by decide) (by decide) readItems_anyText rfl rfl rfl rfl rfl⟩

theorem readPatterns_definition {function cls : String} (hname : IsWordName function.toList)
    (hmaker : function ≠ makerName) (hcls : ∀ c ∈ cls.toList, c ∉ specialChars) :
    ∃ others, readPatterns (definitionPatterns function cls) =
      .ok (objectRegex function.toList :: others) := by
  have hfunction : ∀ c ∈ function.toList, c ∉ specialChars :=
    fun c hc => notMem_specialChars (hname.isWord c hc)
  have hmember : ∀ c ∈ (cls ++ "::" ++ function).toList, c ∉ specialChars := by
    simp only [String.toList_append, forall_mem_append]
    exact ⟨⟨hcls, notMem_specialChars_of_all (by decide)⟩, hfunction⟩
  have hobject : ∀ c ∈ ("Py::Object " ++ function).toList, c ∉ specialChars := by
    simp only [String.toList_append, forall_mem_append]
    exact ⟨notMem_specialChars_of_all (by decide), hfunction⟩
  obtain ⟨second, hsecond⟩ := read_anyPattern (by simp) hmember
  obtain ⟨third, hthird⟩ := read_anyPattern (by simp) hobject
  refine ⟨[second, third], ?_⟩
  rw [definitionPatterns, if_neg (by simpa using hmaker)]
  simp only [readPatterns, read_objectPattern hname, hsecond, hthird]
  rfl

def startNode (name : List Char) : Node := sequence (literalItems {} name ++ objectItems)

def IsStart (name w : List Char) : Prop :=
  ∃ a b c, IsGap a ∧ IsGap b ∧ IsGap c ∧
    w = name ++ a ++ ['('] ++ (b ++ ("PyObject".toList ++ (c ++ ['*'])))

section
variable {name w word after : List Char}

theorem takes_startNode : Takes (startNode name) w ↔ IsStart name w := by
  simp only [startNode, objectItems, takes_literal_append, takes_gap_cons, takes_mark_cons,
    show sequence [] = .empty from rfl, takes_empty, IsStart, append_assoc,
    singleton_append]
  constructor
  · rintro ⟨_, ⟨a, _, ha, ⟨_, ⟨b, _, hb, ⟨_, ⟨c, _, hc, ⟨_, rfl, rfl⟩, rfl⟩, rfl⟩, rfl⟩, rfl⟩,
      rfl⟩, rfl⟩
    exact ⟨a, b, c, ha, hb, hc, rfl⟩
  · rintro ⟨a, b, c, ha, hb, hc, rfl⟩
    exact ⟨_, ⟨a, _, ha, ⟨_, ⟨b, _, hb, ⟨_, ⟨c, _, hc, ⟨_, rfl, rfl⟩, rfl⟩, rfl⟩, rfl⟩, rfl⟩, rfl⟩,
      rfl⟩

theorem isRegular_startNode (name : List Char) : (startNode name).isRegular = true :=
  isRegular_literal_append (by decide)

def Uncalled (name cs : List Char) : Prop := ∀ w, IsStart name w → ¬ w <:+: cs

theorem uncalled_iff : Uncalled name w ↔
    Regex.search { node := startNode name, captures := 0, names := [] } (String.ofList w) =
      none := by
  rw [Regex.search_eq_none_iff (isRegular_startNode name)]
  simp only [takes_startNode, Uncalled]

instance : Decidable (Uncalled name w) := decidable_of_iff _ uncalled_iff.symm

section
variable (hname : IsWordName name)
include hname

theorem IsStart.exists_front (h : IsStart name w) :
    ∃ a more, IsGap a ∧ w = name ++ a ++ ['('] ++ more ∧ (∀ c ∈ name ++ a, isHeadChar c = true) ∧
      '\x7d' ∉ w := by
  obtain ⟨a, b, c, ha, hb, hc, rfl⟩ := h
  have hword : '\x7d' ∉ name := fun h => absurd (hname.isWord _ h) (by decide)
  refine ⟨a, _, ha, rfl, ?_, ?_⟩
  · refine forall_mem_append.2 ⟨fun c hc => ?_, ha.isHeadChar⟩
    exact Bool.or_eq_true_iff.2 (.inl (hname.isWord c hc))
  · simp [hword, ha.notMem (c := '\x7d') (by decide), hb.notMem (c := '\x7d') (by decide),
      hc.notMem (c := '\x7d') (by decide)]

theorem clear_mark {c : Char} (hc : isHeadChar c = false)
    (hne : c ≠ '(') (hword : '(' ∉ word) : Clear (startNode name) (word ++ [c]) after := by
  intro u v huv hv w hw hstarts
  obtain ⟨v', rfl, rfl⟩ := exists_concat_of_append huv hv
  obtain ⟨a, more, -, rfl, hfront, -⟩ := (takes_startNode.1 hw).exists_front hname
  have hmark : c ∉ name ++ a ++ ['('] := by
    rw [mem_append, not_or, mem_singleton]
    exact ⟨fun h => Bool.false_ne_true (hc.symm.trans (hfront c h)), hne⟩
  rw [append_assoc v', singleton_append] at hstarts
  have hshort : name ++ a ++ ['('] <+: v' :=
    Chars.prefix_of_notMem hmark ((prefix_append _ more).trans hstarts)
  exact hword (mem_append_right _ (hshort.subset (by simp)))

theorem clear_parenthesis : Clear (startNode name) ['('] after := by
  intro u v huv hv w hw hstarts
  obtain ⟨v', huv', rfl⟩ := exists_concat_of_append (nil_append ['('] ▸ huv) hv
  obtain ⟨rfl, rfl⟩ := append_eq_nil_iff.1 huv'
  obtain ⟨a, b, c, -, -, -, rfl⟩ := takes_startNode.1 hw
  obtain ⟨first, others, rfl⟩ := exists_cons_of_ne_nil hname.ne_nil
  obtain rfl : first = '(' := (cons_prefix_cons.1 hstarts).1
  exact absurd (hname.isWord _ mem_cons_self) (by decide)

theorem Uncalled.clear (hword : Uncalled name word) :
    Clear (startNode name) (word ++ ['\x7d']) after := by
  intro u v huv hv w hw hstarts
  obtain ⟨v', rfl, rfl⟩ := exists_concat_of_append huv hv
  have hstart := takes_startNode.1 hw
  obtain ⟨-, -, -, -, -, hbrace⟩ := hstart.exists_front hname
  rw [append_assoc, singleton_append] at hstarts
  have hshort := Chars.prefix_of_notMem hbrace hstarts
  exact hword w hstart (hshort.isInfix.trans (suffix_append u v').isInfix)

theorem eq_of_start_prefix (hw : IsStart name w)
    (hword : ∀ c ∈ word, Text.isWord c = true) (hstarts : w <+: word ++ '(' :: after) :
    word = name := by
  obtain ⟨a, more, ha, rfl, hfront, -⟩ := hw.exists_front hname
  have hparenthesis : '(' ∉ name ++ a := fun h => absurd (hfront _ h) (by decide)
  have hword' : '(' ∉ word := fun h => absurd (hword _ h) (by decide)
  have hstarts' : name ++ a ++ ['('] <+: word ++ ['('] ++ after := by
    rw [append_assoc word, singleton_append]
    exact (prefix_append _ more).trans hstarts
  obtain rfl := Chars.eq_of_prefix_concat hword' hparenthesis hstarts'
  have hempty : a = [] := by
    rw [eq_nil_iff_forall_not_mem]
    intro c hc
    exact Bool.false_ne_true ((Text.not_isWord_of_isBlank (ha c hc)).symm.trans
      (hword c (mem_append_right _ hc)))
  rw [hempty, append_nil]

theorem clear_name (hword : ∀ c ∈ word, Text.isWord c = true)
    (h : ¬ name <:+ word) : Clear (startNode name) word ('(' :: after) := by
  rintro u v rfl hv w hw hstarts
  obtain rfl := eq_of_start_prefix hname (takes_startNode.1 hw)
    (fun c hc => hword c (mem_append_right u hc)) hstarts
  exact h (suffix_append u v)

theorem clear_before_name (hword : ∀ c ∈ word, Text.isWord c = true) :
    Clear (startNode name) word (name ++ '(' :: after) := by
  rintro u v rfl hv w hw hstarts
  rw [← append_assoc] at hstarts
  have heq := eq_of_start_prefix hname (takes_startNode.1 hw)
    (forall_mem_append.2 ⟨fun c hc => hword c (mem_append_right u hc), hname.isWord⟩)
    hstarts
  exact hv (append_left_eq_self.1 heq)

end

end

/-- A binding function as it is written: the blanks before it, its name, its parameters after the
star of the first one, and what stands between its braces. -/
structure Definition where
  gap : List Char
  name : List Char
  parameters : List Char
  body : List Char
  isGap : IsGap gap
  isName : IsWordName name
  inLine : '(' ∉ parameters ∧ ')' ∉ parameters ∧ '\n' ∉ parameters

namespace Definition

def front (cls : List Char) (d : Definition) : List Char :=
  d.gap ++ "PyObject* ".toList ++ cls ++ "::".toList

def parameterList (d : Definition) : List Char :=
  '(' :: ("PyObject *".toList ++ d.parameters ++ [')'])

def block (d : Definition) : List Char := " \x7b".toList ++ (d.body ++ ['\x7d'])

def text (cls : List Char) (d : Definition) : List Char :=
  d.front cls ++ (d.name ++ (d.parameterList ++ d.block))

end Definition

section
variable {text pre rest name cls : List Char} {d : Definition}

theorem clear_front (hname : IsWordName name) (hcls : '(' ∉ cls) (d : Definition) :
    Clear (startNode name) (d.front cls) rest := by
  have hsplit : d.front cls = d.gap ++ "PyObject* ".toList ++ cls ++ [':'] ++ [':'] := by
    simp [Definition.front]
  rw [hsplit]
  refine clear_mark hname (by decide) (by decide) ?_
  simp [hcls, d.isGap.notMem (c := '(') (by decide)]

theorem clear_parameterList (hname : IsWordName name) (d : Definition) :
    Clear (startNode name) d.parameterList rest := by
  have hparameters : '(' ∉ "PyObject *".toList ++ d.parameters := by
    simp [d.inLine.1]
  exact (clear_parenthesis hname).append (clear_mark hname (by decide) (by decide) hparameters)

theorem clear_block (hname : IsWordName name) (h : Uncalled name d.body) :
    Clear (startNode name) d.block rest := by
  have hbrace : Clear (startNode name) ([' '] ++ ['\x7b']) (d.body ++ ['\x7d'] ++ rest) :=
    clear_mark hname (by decide) (by decide) (by decide)
  exact hbrace.append (h.clear hname)

theorem clear_text (hname : IsWordName name) (hcls : '(' ∉ cls) (h : ¬ name <:+ d.name)
    (hbody : Uncalled name d.body) : Clear (startNode name) (d.text cls) rest := by
  refine (clear_front hname hcls d).append (.append ?_ (.append (clear_parameterList hname d)
    (clear_block hname hbody)))
  exact clear_name hname d.isName.isWord h

theorem scan_of_clear {word after : List Char} {caught : List (Nat × Nat × Nat)}
    (h : Clear (startNode name) word after) :
    (objectRegex name).scan text false (word ++ after) (.between pre (word ++ after) caught) =
      (objectRegex name).scan text false after (.between (pre ++ word) after caught) := by
  refine Regex.scan_append fun u v huv hv => ?_
  rw [Option.eq_none_iff_forall_ne_some]
  intro r hr
  rw [objectRegex, ← append_assoc, run_sequence_append] at hr
  obtain ⟨w, rest, -, hsplit, hw, -⟩ := exists_takes_of_run (isRegular_startNode name) hr
  exact h u v huv hv w hw (hsplit ▸ prefix_append w rest)

theorem run_objectRegex (name : List Char) (d : Definition) :
    run text (objectRegex name).node (.between pre (name ++ (d.parameterList ++ rest)) []) some =
      some (.between (pre ++ name ++ d.parameterList) rest []) := by
  have hlast : ∀ before, run text (sequence lastItems)
      (.between before (d.parameters ++ ')' :: rest) []) some =
        some (.between (before ++ d.parameters ++ [')']) rest []) := by
    intro before
    refine run_fewest_mark fun c hc => ?_
    exact ⟨(has_allBut _ _).2 fun h => d.inLine.2.2 (h ▸ hc), fun h => d.inLine.2.1 (h ▸ hc)⟩
  have hstar : ∀ before, run text (sequence (gapItem :: markItem '*' :: lastItems))
      (.between before ([' '] ++ '*' :: (d.parameters ++ ')' :: rest)) []) some =
        some (.between (before ++ " *".toList ++ d.parameters ++ [')']) rest []) := by
    intro before
    refine run_gap_append (by decide) (by decide) ?_
    rw [run_mark_cons, hlast]
    simp
  have hsplit : d.parameterList ++ rest =
      '(' :: ("PyObject".toList ++ ([' '] ++ '*' :: (d.parameters ++ ')' :: rest))) := by
    simp [Definition.parameterList]
  have hitems : objectItems ++ lastItems = gapItem :: markItem '(' :: gapItem ::
      (literalItems {} "PyObject".toList ++ gapItem :: markItem '*' :: lastItems) := rfl
  rw [objectRegex, run_literal_items, hsplit, hitems, run_gap_of_not rfl (by decide), run_mark_cons,
    run_gap_of_not (head?_word_append rfl _) (by decide), run_literal_items, hstar]
  simp [Definition.parameterList]

theorem scan_text (hname : IsWordName name) (hcls : '(' ∉ cls) (h : name <:+ d.name) :
    ∃ start, (objectRegex name).scan text false (d.text cls ++ rest)
        (.between pre (d.text cls ++ rest) []) =
      some (start, .between (pre ++ (d.front cls ++ (d.name ++ d.parameterList)))
        (d.block ++ rest) []) := by
  obtain ⟨word, hword⟩ := h
  have hisWord : ∀ c ∈ word, Text.isWord c = true := fun c hc =>
    d.isName.isWord c (hword ▸ mem_append_left name hc)
  have hsplit : d.text cls ++ rest =
      (d.front cls ++ word) ++ (name ++ (d.parameterList ++ (d.block ++ rest))) := by
    simp only [Definition.text, ← hword, append_assoc]
  have hclear : Clear (startNode name) (d.front cls ++ word)
      (name ++ (d.parameterList ++ (d.block ++ rest))) :=
    (clear_front hname hcls d).append (clear_before_name hname hisWord)
  refine ⟨(pre ++ (d.front cls ++ word)).length, ?_⟩
  rw [hsplit, scan_of_clear hclear, Regex.scan_of_run (run_objectRegex name d), ← hword]
  simp only [append_assoc]
  rfl

/-- The first of several definitions whose name ends with that of the last one. -/
def firstNamed (before : List Definition) (d : Definition) : Definition :=
  (before.find? fun e => d.name <:+ e.name).getD d

theorem firstNamed_mem (before : List Definition) (d : Definition) :
    firstNamed before d ∈ d :: before := by
  rw [firstNamed]
  cases hfind : before.find? _ with
  | none => exact mem_cons_self
  | some e => exact mem_cons_of_mem d (mem_of_find?_eq_some hfind)

theorem scan_definitions (text pre rest : List Char) (hcls : '(' ∉ cls)
    (before : List Definition) (d : Definition)
    (huncalled : ∀ e ∈ before, Uncalled d.name e.body) :
    ∃ start front after,
      pre ++ (before.flatMap (Definition.text cls) ++ (d.text cls ++ rest)) =
        front ++ ((firstNamed before d).block ++ after) ∧
      (objectRegex d.name).scan text false
          (before.flatMap (Definition.text cls) ++ (d.text cls ++ rest))
          (.between pre (before.flatMap (Definition.text cls) ++ (d.text cls ++ rest)) []) =
        some (start, .between front ((firstNamed before d).block ++ after) []) := by
  induction before generalizing pre with
  | nil =>
    obtain ⟨start, hscan⟩ := scan_text d.isName hcls (suffix_refl d.name)
    exact ⟨start, _, rest, by simp [firstNamed, Definition.text], hscan⟩
  | cons e before ih =>
    rw [forall_mem_cons] at huncalled
    rw [flatMap_cons, append_assoc]
    by_cases hends : d.name <:+ e.name
    · have hfound : firstNamed (e :: before) d = e := by
        rw [firstNamed, find?_cons_of_pos (by simpa using hends), Option.getD_some]
      obtain ⟨start, hscan⟩ := scan_text d.isName hcls hends
      rw [hfound]
      exact ⟨start, _, _, by simp [Definition.text], hscan⟩
    · have hfound : firstNamed (e :: before) d = firstNamed before d := by
        rw [firstNamed, find?_cons_of_neg (by simpa using hends), firstNamed]
      obtain ⟨start, front, after, htext, hscan⟩ := ih (pre ++ e.text cls) huncalled.2
      rw [hfound, scan_of_clear (clear_text d.isName hcls hends huncalled.1), ← append_assoc]
      exact ⟨start, front, after, htext, hscan⟩

end

/-- The characters of a stretch that a scan looks at, in a text with or without conditionals. -/
def seenIn (conditionals : Bool) (start : Nat) (cs : List Char) : List (Nat × Char) :=
  if conditionals then firstBranches {} start cs else positioned start cs

/-- A block whose last character is the brace that closes it, and no brace before it does. -/
def IsClosed (conditionals : Bool) (block : List Char) : Prop :=
  (seenIn conditionals 0 block).getLast? = some (block.length - 1, '\x7d') ∧
    Balances '\x7b' '\x7d' 0 (seenIn conditionals 0 block).dropLast ∧
    StaysOpen '\x7b' '\x7d' 0 (seenIn conditionals 0 block).dropLast

instance (conditionals : Bool) (block : List Char) : Decidable (IsClosed conditionals block) :=
  inferInstanceAs (Decidable (_ ∧ _ ∧ _))

theorem IsClosed.closes {conditionals : Bool} {block : List Char}
    (h : IsClosed conditionals block) :
    Closes '\x7b' '\x7d' (seenIn conditionals 0 block) (block.length - 1) := by
  obtain ⟨hlast, hbalances, hopen⟩ := h
  exact ⟨_, [], (dropLast_append_getLast? _ hlast).symm, hbalances, hopen⟩

theorem firstBranches_append (b : Branches) (start : Nat) (cs ds : List Char) :
    firstBranches b start (cs ++ ds) = firstBranches b start cs ++
      firstBranches (cs.foldl Branches.see b) (start + cs.length) ds := by
  induction cs generalizing b start with
  | nil => rfl
  | cons c cs ih =>
    have hplace : start + 1 + cs.length = start + (cs.length + 1) := by omega
    rw [cons_append, firstBranches, firstBranches, ih, length_cons, foldl_cons,
      hplace]
    split <;> rfl

def shift (n : Nat) (x : Nat × Char) : Nat × Char := (n + x.1, x.2)

theorem firstBranches_shift (b : Branches) (n start : Nat) (cs : List Char) :
    firstBranches b (n + start) cs = (firstBranches b start cs).map (shift n) := by
  induction cs generalizing b start with
  | nil => rfl
  | cons c cs ih =>
    rw [firstBranches, firstBranches, Nat.add_assoc, ih]
    split <;> rfl

theorem positioned_shift (n start : Nat) (cs : List Char) :
    positioned (n + start) cs = (positioned start cs).map (shift n) := by
  induction cs generalizing start with
  | nil => rfl
  | cons c cs ih =>
    rw [positioned, positioned, Nat.add_assoc, ih]
    rfl

theorem seenIn_append (conditionals : Bool) (start : Nat) (cs ds : List Char) :
    ∃ more, seenIn conditionals start (cs ++ ds) =
      (seenIn conditionals 0 cs).map (shift start) ++ more := by
  cases conditionals with
  | true =>
    refine ⟨_, (firstBranches_append {} start cs ds).trans (congrArg (· ++ _) ?_)⟩
    exact firstBranches_shift {} start 0 cs
  | false =>
    refine ⟨_, (positioned_append start cs ds).trans (congrArg (· ++ _) ?_)⟩
    exact positioned_shift start 0 cs

section
variable {opening closing : Char} {seen : List (Nat × Char)} {place : Nat}

theorem balances_shift (n : Nat) (before : List (Nat × Char)) :
    Balances opening closing 0 (before.map (shift n)) ↔ Balances opening closing 0 before := by
  have hcount : ∀ c, countSeen c (before.map (shift n)) = countSeen c before := by
    intro c
    rw [countSeen, countSeen, map_map]
    rfl
  rw [Balances, Balances, hcount, hcount]

theorem Closes.shift_append (h : Closes opening closing seen place) (n : Nat)
    (more : List (Nat × Char)) :
    Closes opening closing (seen.map (shift n) ++ more) (n + place) := by
  obtain ⟨before, after, rfl, hbalances, hopen⟩ := h
  refine ⟨before.map (shift n), after.map (shift n) ++ more, by simp [shift],
    (balances_shift n before).2 hbalances, ?_⟩
  intro b i a hsplit hb
  obtain ⟨b', a', rfl, rfl, ha⟩ := map_eq_append_iff.1 hsplit
  obtain ⟨⟨j, c⟩, a'', rfl, hx, -⟩ := map_eq_cons_iff.1 ha
  obtain ⟨-, rfl⟩ := Prod.mk.inj hx
  exact hopen b' j a'' rfl ((balances_shift n b').1 hb)

end

theorem blockFrom_of_isClosed {front block after : List Char} (hne : block ≠ [])
    (h : IsClosed (Chars.contains (front ++ (block ++ after)) "#if".toList) block) :
    blockFrom (front ++ (block ++ after)) front.length '\x7b' '\x7d' = block := by
  have hseen : charactersSeen (front ++ (block ++ after)) front.length =
      seenIn (Chars.contains (front ++ (block ++ after)) "#if".toList) front.length
        (block ++ after) := by
    rw [charactersSeen, drop_left]
    rfl
  obtain ⟨more, hmore⟩ := seenIn_append
    (Chars.contains (front ++ (block ++ after)) "#if".toList) front.length block after
  have hlength : front.length + (block.length - 1) + 1 = front.length + block.length := by
    have := length_pos_iff.2 hne
    omega
  rw [blockFrom, hseen, hmore, blockEnd_of_closes (by decide) (h.closes.shift_append _ _), hlength,
    Chars.slice, take_length_add_append, take_left, drop_left]

theorem functionBody?_of_scan {content function cls : String} (hname : IsWordName function.toList)
    (hmaker : function ≠ makerName) (hcls : ∀ c ∈ cls.toList, c ∉ specialChars) {start : Nat}
    {stop : Spot}
    (h : (objectRegex function.toList).scan content.toList false content.toList
      (.between [] content.toList []) = some (start, stop)) :
    functionBody? content function cls = .ok (some (bodyFrom content stop.place)) := by
  obtain ⟨others, hread⟩ := readPatterns_definition hname hmaker hcls
  have hsearch : (objectRegex function.toList).search content =
      some (Regex.toMatch content.toList (start, stop)) := by
    rw [← String.ofList_toList (s := content), Regex.search_eq, String.ofList_toList, h]
    rfl
  rw [functionBody?, hread]
  change Except.ok (((objectRegex function.toList :: others).findSome? fun r =>
    r.search content).map fun m => bodyFrom content m.stop) = _
  rw [findSome?_cons, hsearch]
  rfl

/-- Of binding functions, whatever follows them, the first one is taken whose name ends with the
wanted one. So the wanted body is found exactly if no earlier function has such a name or the first
one that has it is written in the same way. -/
theorem functionBody_of_definitions (content cls : String) (before : List Definition)
    (d : Definition) (rest : List Char)
    (hcontent : content.toList =
      before.flatMap (Definition.text cls.toList) ++ (d.text cls.toList ++ rest))
    (hcls : ∀ c ∈ cls.toList, c ∉ specialChars) (hmaker : String.ofList d.name ≠ makerName)
    (huncalled : ∀ e ∈ before, Uncalled d.name e.body)
    (hclosed : ∀ e ∈ d :: before, IsClosed (Chars.contains content.toList "#if".toList) e.block) :
    functionBody? content (String.ofList d.name) cls =
        .ok (some (String.ofList (firstNamed before d).block)) ∧
      (functionBody? content (String.ofList d.name) cls = .ok (some (String.ofList d.block)) ↔
        ∀ e, before.find? (fun e => d.name <:+ e.name) = some e → e.block = d.block) := by
  have hparenthesis : '(' ∉ cls.toList := fun h => hcls _ h (by decide)
  obtain ⟨start, front, after, htext, hscan⟩ :=
    scan_definitions content.toList [] rest hparenthesis before d huncalled
  rw [nil_append, ← hcontent] at htext
  rw [← hcontent, ← String.toList_ofList (l := d.name)] at hscan
  have hname : IsWordName (String.ofList d.name).toList := by
    rw [String.toList_ofList]
    exact d.isName
  have hne : (firstNamed before d).block ≠ [] := cons_ne_nil _ _
  have hend := hclosed _ (firstNamed_mem before d)
  rw [htext] at hend
  have hbody : functionBody? content (String.ofList d.name) cls =
      .ok (some (String.ofList (firstNamed before d).block)) := by
    rw [functionBody?_of_scan hname hmaker hcls hscan, bodyFrom, htext]
    exact congrArg (fun b => Except.ok (some (String.ofList b))) (blockFrom_of_isClosed hne hend)
  refine ⟨hbody, ?_⟩
  rw [hbody, Except.ok.injEq, Option.some.injEq, String.ofList_inj, firstNamed]
  cases before.find? _ <;> simp

def namesDefinition : Definition where
  gap := ['\n']
  name := "Names".toList
  parameters := "args".toList
  body := " return 1; ".toList
  isGap := by decide
  isName := .of_check (by decide)
  inLine := by decide

def nameDefinition : Definition where
  gap := ['\n']
  name := "Name".toList
  parameters := "args".toList
  body := " if (x) \x7b return 2; \x7d ".toList
  isGap := by decide
  isName := .of_check (by decide)
  inLine := by decide

/-- A name that goes on after the wanted one does no harm. -/
theorem functionBody_of_definitions_names :
    functionBody? ("\nPyObject* A::Names(PyObject *args) \x7b return 1; \x7d\n" ++
        "PyObject* A::Name(PyObject *args) \x7b if (x) \x7b return 2; \x7d \x7d\n") "Name" "A" =
      .ok (some " \x7b if (x) \x7b return 2; \x7d \x7d") :=
  (functionBody_of_definitions _ "A" [namesDefinition] nameDefinition ['\n'] (by decide)
    (notMem_specialChars_of_all (by decide)) (by decide) (by decide) (by decide)).1

/-- A name with something in front of the wanted one takes its place. -/
theorem functionBody_of_getter :
    (functionBody? ("PyObject* A::getName(PyObject *args) \x7b return 1; \x7d\n" ++
        "PyObject* A::Name(PyObject *args) \x7b return 2; \x7d\n") "Name" "A").toOption =
      some (some " \x7b return 1; \x7d") := by
  decide +kernel

end BindingStubs.Source
