import BindingStubs.Proofs.Documentation.Prepared
import BindingStubs.Proofs.Method.Pointer

set_option autoImplicit false

/-! # Methods that get a signature -/

namespace BindingStubs.Method

open Text Documentation List

def isMargin (c : Char) : Bool := isBlank c || c == '"'

def IsBare (s : String) : Prop :=
  s.toList.head?.any isMargin = false ∧ s.toList.getLast?.any isMargin = false

def Enclosed (s : String) : Prop := ∃ body, Chars.trim s.toList = '"' :: (body ++ ['"'])

theorem toList_unquote (s : String) :
    (unquote s).toList = Chars.dropEnd (Chars.dropStart (Chars.trim s.toList) ['"']) ['"'] := by
  simp [unquote, Text.dropEnd, Text.dropStart, Text.trim]

theorem exists_dropStart (cs : List Char) (c : Char) :
    ∃ start, cs = start ++ Chars.dropStart cs [c] ∧ (start = [] ∨ start = [c]) := by
  rw [Chars.dropStart]
  split
  · next h =>
    obtain ⟨rest, rfl⟩ := isPrefixOf_iff_prefix.1 h
    exact ⟨[c], rfl, Or.inr rfl⟩
  · exact ⟨[], rfl, Or.inl rfl⟩

theorem exists_dropEnd (cs : List Char) (c : Char) :
    ∃ stop, cs = Chars.dropEnd cs [c] ++ stop ∧ (stop = [] ∨ stop = [c]) := by
  rw [Chars.dropEnd]
  split
  · next h =>
    obtain ⟨rest, rfl⟩ := isSuffixOf_iff_suffix.1 h
    exact ⟨[c], by simp, Or.inr rfl⟩
  · exact ⟨[], (append_nil cs).symm, Or.inl rfl⟩

theorem exists_unquote (s : String) :
    ∃ gap start stop gap', s.toList = gap ++ (start ++ ((unquote s).toList ++ stop) ++ gap') ∧
      Chars.trim s.toList = start ++ ((unquote s).toList ++ stop) ∧
      (∀ c ∈ gap ++ gap', isBlank c = true) ∧
      (start = [] ∨ start = ['"']) ∧ (stop = [] ∨ stop = ['"']) := by
  obtain ⟨gap, gap', hs, hgap⟩ := Chars.exists_trim s.toList
  obtain ⟨start, hstart, hone⟩ := exists_dropStart (Chars.trim s.toList) '"'
  obtain ⟨stop, hstop, hone'⟩ := exists_dropEnd (Chars.dropStart (Chars.trim s.toList) ['"']) '"'
  rw [← toList_unquote] at hstop
  rw [hstop] at hstart
  exact ⟨gap, start, stop, gap', by rw [← hstart]; exact hs, hstart, hgap, hone, hone'⟩

theorem dropStart_eq_self_iff {cs : List Char} {c : Char} :
    Chars.dropStart cs [c] = cs ↔ cs.head? ≠ some c := by
  rcases cs with _ | ⟨d, cs⟩
  · simp [Chars.dropStart]
  · by_cases hd : d = c
    · simp [Chars.dropStart, hd]
    · simp [Chars.dropStart, hd, Ne.symm hd]

theorem dropEnd_eq_self_iff {cs : List Char} {c : Char} :
    Chars.dropEnd cs [c] = cs ↔ cs.getLast? ≠ some c := by
  rcases eq_nil_or_concat' cs with rfl | ⟨cs, d, rfl⟩
  · simp [Chars.dropEnd]
  · rw [Chars.dropEnd, getLast?_concat, ne_eq, Option.some_inj]
    by_cases hd : d = c
    · rw [hd, if_pos (isSuffixOf_iff_suffix.2 (suffix_append cs [c]))]
      simp
    · rw [if_neg]
      · simp [hd]
      · intro hsuffix
        obtain ⟨front, hfront⟩ := isSuffixOf_iff_suffix.1 hsuffix
        have hlast := append_inj_right' hfront rfl
        exact hd (singleton_inj.1 hlast).symm

theorem isBare_iff {s : String} :
    IsBare s ↔ Chars.trim s.toList = s.toList ∧ Chars.dropStart s.toList ['"'] = s.toList ∧
      Chars.dropEnd s.toList ['"'] = s.toList := by
  have hends : ∀ o : Option Char, o.any isMargin = false ↔
      o.all (!isBlank ·) = true ∧ o ≠ some '"' := by
    rintro (_ | c) <;> simp [isMargin]
  rw [IsBare, hends, hends, Chars.trim_eq_self_iff, dropStart_eq_self_iff, dropEnd_eq_self_iff]
  tauto

theorem unquote_eq_self_iff {s : String} : unquote s = s ↔ IsBare s := by
  rw [isBare_iff, ← String.toList_inj, toList_unquote]
  constructor
  · intro h
    have hend := (Chars.infix_dropEnd (Chars.dropStart (Chars.trim s.toList) ['"']) ['"']).length_le
    have hstart := (Chars.infix_dropStart (Chars.trim s.toList) ['"']).length_le
    rw [h] at hend
    have htrim : Chars.trim s.toList = s.toList :=
      (Chars.infix_trim s.toList).eq_of_length_le (by omega)
    rw [htrim] at h hend
    have hfirst : Chars.dropStart s.toList ['"'] = s.toList :=
      (Chars.infix_dropStart _ _).eq_of_length_le hend
    rw [hfirst] at h
    exact ⟨htrim, hfirst, h⟩
  · rintro ⟨htrim, hstart, hend⟩
    rw [htrim, hstart, hend]

theorem toList_docText (s : String) :
    (docText s).toList = Chars.replace (joinLiterals s.toList) ['\\', 'n'] ['\n'] := by
  simp [docText, Text.replace]

theorem count_quote_docText (s : String) :
    (docText s).toList.count '"' % 2 = s.toList.count '"' % 2 := by
  rw [toList_docText, Chars.count_replace (by decide) (by decide), (joined_joinLiterals _).count_quote]

theorem toList_docText_blanks {s t : String} {gap gap' : List Char}
    (hs : s.toList = gap ++ (t.toList ++ gap')) (hgap : ∀ c ∈ gap ++ gap', isBlank c = true) :
    (docText s).toList = gap ++ ((docText t).toList ++ gap') := by
  rw [forall_mem_append] at hgap
  have hjoin : joinLiterals s.toList = gap ++ (joinLiterals t.toList ++ gap') := by
    rw [hs]
    exact (((joined_joinLiterals _).append_blank hgap.2).blank_append hgap.1).eq_joinLiterals.symm
  have hescape : '\\' ∉ gap := fun hmem => absurd (hgap.1 _ hmem) (by decide)
  have htail : ∀ c ∈ gap', c ∉ ['\\', 'n'] := by
    intro c hc hmem
    have hblank := hgap.2 c hc
    rcases mem_pair.1 hmem with rfl | rfl
    · exact absurd hblank (by decide)
    · exact absurd hblank (by decide)
  rw [toList_docText, toList_docText, hjoin, Chars.replace_append_of_notMem hescape,
    Chars.replace_append_tail (by decide) _ htail]

theorem docText_unquote_iff {s : String} (h : ¬ Enclosed s) :
    docText (unquote s) = docText s ↔ IsBare s := by
  refine ⟨fun hsame => ?_, fun hbare => by rw [unquote_eq_self_iff.2 hbare]⟩
  obtain ⟨gap, start, stop, gap', hs, htrim, hgap, hstart, hstop⟩ := exists_unquote s
  have hparity : (start ++ stop).count '"' % 2 = 0 := by
    have hcount := count_quote_docText s
    have hcount' := count_quote_docText (unquote s)
    have hnone : gap.count '"' + gap'.count '"' = 0 := by
      rw [← count_append]
      exact count_eq_zero.2 fun hmem => absurd (hgap '"' hmem) (by decide)
    rw [hsame] at hcount'
    rw [hs] at hcount
    simp only [count_append] at hcount hnone ⊢
    omega
  have hnothing : start = [] ∧ stop = [] := by
    rcases hstart with rfl | rfl <;> rcases hstop with rfl | rfl
    · exact ⟨rfl, rfl⟩
    · simp at hparity
    · simp at hparity
    · exact absurd ⟨_, htrim.trans singleton_append⟩ h
  obtain ⟨rfl, rfl⟩ := hnothing
  rw [nil_append, append_nil] at hs
  have hlength := congrArg List.length (toList_docText_blanks hs hgap)
  rw [hsame, length_append, length_append] at hlength
  have hgap : gap = [] := length_eq_zero_iff.1 (by omega)
  have hgap' : gap' = [] := length_eq_zero_iff.1 (by omega)
  rw [hgap, hgap', nil_append, append_nil] at hs
  exact unquote_eq_self_iff.1 (String.toList_inj.1 hs.symm)

theorem pointer_unquote (s : String) : pointer (unquote s) = pointer s := by
  obtain ⟨gap, start, stop, gap', hs, -, hgap, hstart, hstop⟩ := exists_unquote s
  have hone : ∀ {part : List Char}, part = [] ∨ part = ['"'] → HasNoWord part := by
    rintro part (rfl | rfl) c hc
    · simp at hc
    · rw [mem_singleton.1 hc]
      decide
  have hblank : HasNoWord (gap ++ gap') := fun c hc => not_isWord_of_isBlank (hgap c hc)
  obtain ⟨hleft, hright⟩ := forall_mem_append.1 hblank
  have hsplit : s.toList = (gap ++ start) ++ ((unquote s).toList ++ (stop ++ gap')) := by
    rw [hs]
    simp only [append_assoc]
  calc
    pointer (unquote s) = pointer (String.ofList (unquote s).toList) := by rw [String.ofList_toList]
    _ = pointer (String.ofList ((gap ++ start) ++ ((unquote s).toList ++ (stop ++ gap')))) :=
      (pointer_append (forall_mem_append.2 ⟨hleft, hone hstart⟩)
        (forall_mem_append.2 ⟨hone hstop, hright⟩)).symm
    _ = pointer s := by rw [← hsplit, String.ofList_toList]

def flagsOf : MethodForm → List String → Option String
  | .called, _ => none
  | .tabled, rest => rest.head?

theorem make_eq_ok_iff {form : MethodForm} {written : List String} {m : Method} :
    make form written = .ok m ↔
      ∃ name target rest cppClass function,
        written.map unquote = name :: target :: rest ∧
        pointer target = .ok (cppClass, function) ∧ (form = .tabled → rest ≠ []) ∧
        m = { form, arguments := name :: target :: rest, name, cppClass, function,
              doc := rest.getLast?.map docText, flags := flagsOf form rest } := by
  unfold make
  generalize written.map unquote = arguments
  rcases arguments with _ | ⟨name, _ | ⟨target, rest⟩⟩
  · simp
  · simp
  · cases hpointer : pointer target with
    | error e => simp [hpointer, bind, Except.bind]
    | ok names =>
      obtain ⟨cppClass, function⟩ := names
      cases form with
      | called => simp [hpointer, flagsOf, eq_comm]
      | tabled =>
        cases rest with
        | nil => simp [hpointer, bind, Except.bind, throw, throwThe, MonadExceptOf.throw]
        | cons f rest => simp [hpointer, flagsOf, eq_comm]

theorem flagsOf_map (form : MethodForm) (change : String → String) (rest : List String) :
    flagsOf form (rest.map change) = (flagsOf form rest).map change := by
  cases form with
  | called => rfl
  | tabled => exact head?_map

theorem map_unquote_eq_self_iff (o : Option String) :
    o.map unquote = o ↔ ∀ f ∈ o, IsBare f := by
  cases o with
  | none => simp
  | some f => simp [unquote_eq_self_iff]

theorem map_docText_unquote (o : Option String) :
    ((∀ last ∈ o, IsBare last) → (o.map unquote).map docText = o.map docText) ∧
      ∀ last ∈ o, ¬ Enclosed last →
        ((o.map unquote).map docText = o.map docText ↔ IsBare last) := by
  refine ⟨fun h => by rw [(map_unquote_eq_self_iff o).2 h], fun last hlast hopen => ?_⟩
  rw [Option.mem_def.1 hlast, Option.map_some, Option.map_some, Option.map_some, Option.some_inj,
    docText_unquote_iff hopen]

theorem withSignature_of_make {form : MethodForm} {arguments : List String} {made : Method}
    (h : make form arguments = .ok made) {m : Method} (hform : m.form = form)
    (harguments : m.arguments = arguments) (s : Signature) :
    m.withSignature s = .ok { made with signature := some s } := by
  rw [withSignature, hform, harguments, h]
  rfl

/-- A method with a signature has the class and the function that it had without. Its name, flags
and documentation are the same if they are bare. -/
theorem withSignature_eq_ok (form : MethodForm) (written : List String) (m : Method)
    (h : make form written = .ok m) (s : Signature) :
    ∃ m', m.withSignature s = .ok m' ∧ m'.signature = some s ∧ m'.form = m.form ∧
      m'.cppClass = m.cppClass ∧ m'.function = m.function ∧
      (m'.name = m.name ↔ IsBare m.name) ∧
      (m'.flags = m.flags ↔ ∀ f ∈ m.flags, IsBare f) ∧
      ((∀ last ∈ (m.arguments.drop 2).getLast?, IsBare last) → m'.doc = m.doc) ∧
      (∀ last ∈ (m.arguments.drop 2).getLast?, ¬ Enclosed last →
        (m'.doc = m.doc ↔ IsBare last)) := by
  obtain ⟨name, target, rest, cppClass, function, -, hpointer, hrest, rfl⟩ := make_eq_ok_iff.1 h
  have hunquoted : (name :: target :: rest).map unquote =
      unquote name :: unquote target :: rest.map unquote := rfl
  have hagain := make_eq_ok_iff.2 ⟨_, _, _, cppClass, function, hunquoted,
    (pointer_unquote target).trans hpointer, fun hform => mt map_eq_nil_iff.1 (hrest hform), rfl⟩
  refine ⟨_, withSignature_of_make hagain rfl rfl s, rfl, rfl, rfl, rfl, unquote_eq_self_iff, ?_, ?_⟩
  · dsimp only
    rw [flagsOf_map, map_unquote_eq_self_iff]
  · dsimp only
    rw [getLast?_map]
    exact map_docText_unquote rest.getLast?

theorem withSignature_eq_ok_ping :
    ∃ m m', make .called ["\"ping\"", "&WidgetPy::ping", "\"ping() returns None\""] = .ok m ∧
      m.withSignature {} = .ok m' ∧ m'.doc = m.doc ∧ m'.cppClass = "WidgetPy" := by
  have harguments : ["\"ping\"", "&WidgetPy::ping", "\"ping() returns None\""].map unquote =
      ["ping", "&WidgetPy::ping", "ping() returns None"] := by decide +kernel
  have hpointer : pointer "&WidgetPy::ping" = .ok ("WidgetPy", "ping") := by decide +kernel
  have hform : MethodForm.called = .tabled → ["ping() returns None"] ≠ [] :=
    fun _ => cons_ne_nil _ _
  have hmake := make_eq_ok_iff.2 ⟨_, _, _, _, _, harguments, hpointer, hform, rfl⟩
  obtain ⟨m', hm', -, -, hclass, -, -, -, hdoc, -⟩ := withSignature_eq_ok .called _ _ hmake {}
  refine ⟨_, m', hmake, hm', hdoc fun last hlast => ?_, hclass⟩
  rw [← Option.some.inj hlast]
  exact ⟨by decide +kernel, by decide +kernel⟩

/-- An escaped quote at the end loses the quote and keeps the escape. -/
theorem withSignature_escaped_quote :
    (do let m ← make .called ["\"ping\"", "&WidgetPy::ping", "\"ping() says \\\"hi\\\"\""]
        let m' ← m.withSignature {}
        return (m.doc, m'.doc)) =
      .ok (some "ping() says \\\"hi\\\"", some "ping() says \\\"hi\\") := by
  decide +kernel

end BindingStubs.Method
