import BindingStubs.Proofs.Format.Order

set_option autoImplicit false

/-! # Keywords and items -/

namespace BindingStubs.Format

open List

variable {c : ParseCall}

theorem Cursor.after_groupEnd {j k : Cursor} (number : j.number = k.number)
    (depth : j.depth = k.depth + 1) :
    (j.after .groupEnd).number = (if k.depth = 0 then k.number + 1 else k.number) ∧
      (j.after .groupEnd).depth = k.depth := by
  simp [Cursor.after, number, depth]

mutual

-- Inside a group neither the number nor, at the end of an item, the depth has changed.

theorem Item.after_symbols (item : Item) (k : Cursor) :
    (item.symbols.foldl Cursor.after k).number =
        (if k.depth = 0 then k.number + 1 else k.number) ∧
      (item.symbols.foldl Cursor.after k).depth = k.depth := by
  cases item with
  | unit u known arguments sized => exact ⟨rfl, rfl⟩
  | group first rest =>
    let opened := k.after .groupStart
    obtain ⟨number, depth⟩ := first.after_symbols opened
    obtain ⟨number', depth'⟩ := after_symbolsOf rest (first.symbols.foldl Cursor.after opened)
    have inside : opened.depth ≠ 0 := Nat.succ_ne_zero _
    rw [if_neg inside] at number
    rw [depth, if_neg inside, number] at number'
    rw [Item.symbols, foldl_cons, foldl_append, foldl_append]
    exact Cursor.after_groupEnd number' (depth'.trans depth)

theorem after_symbolsOf (items : List Item) (k : Cursor) :
    ((symbolsOf items).foldl Cursor.after k).number =
        (if k.depth = 0 then k.number + items.length else k.number) ∧
      ((symbolsOf items).foldl Cursor.after k).depth = k.depth := by
  cases items with
  | nil => simp [symbolsOf]
  | cons item items =>
    obtain ⟨number, depth⟩ := item.after_symbols k
    obtain ⟨number', depth'⟩ := after_symbolsOf items (item.symbols.foldl Cursor.after k)
    rw [symbolsOf, foldl_append, number', depth', depth, number, length_cons]
    refine ⟨?_, rfl⟩
    split <;> omega

end

theorem after_entries (entries : List Entry) {k : Cursor} (closed : k.depth = 0) :
    ((entries.flatMap Entry.symbols).foldl Cursor.after k).number =
      k.number + (entries.filterMap Entry.item?).length := by
  induction entries generalizing k with
  | nil => rfl
  | cons entry entries ih =>
    rw [flatMap_cons, foldl_append]
    cases entry with
    | optional | keywordOnly => exact ih closed
    | item i =>
      obtain ⟨number, depth⟩ := i.after_symbols k
      rw [if_pos closed] at number
      have rest := ih (depth.trans closed)
      rw [number, Nat.add_assoc, Nat.add_comm 1] at rest
      exact rest

theorem number_le_after (xs : List Symbol) (k : Cursor) :
    k.number ≤ (xs.foldl Cursor.after k).number := by
  induction xs generalizing k with
  | nil => exact Nat.le_refl _
  | cons x xs ih =>
    have step : k.number ≤ (k.after x).number := by
      cases x with
      | unit u =>
        simp only [Cursor.after]
        split <;> omega
      | groupEnd =>
        simp only [Cursor.after]
        split <;> omega
      | _ => exact Nat.le_refl _
    exact Nat.le_trans step (ih (k.after x))

theorem Reached.length_eq {before : List Symbol} {done : List Placement} {p : Progress}
    (h : Reached c before done p) :
    done.length = (before.foldl Cursor.after (Progress.initial c).cursor).number := by
  rw [← h.cursor, ← h.parameterIndex]
  rfl

theorem Makes.name_of_keyword {before : List Symbol} {done : List Placement} {p : Progress}
    (reached : Reached c before done p) {ps : List Parameter} (makes : Makes done ps) {i : Nat}
    {x : Parameter} (hx : ps[i]? = some x) {keyword : String}
    (given : c.keywordAt i = some keyword) : x.name = Parameter.givenName keyword := by
  obtain ⟨m, hm, made⟩ := makes.exists_placement hx
  rw [(Parameter.make_parts made).1, (reached.named.placed i m hm).keyword keyword given]

/-- Parameters are named by the keywords in order, one for each item, whatever groups there are and
whatever receives the arguments. They are fewer than the items only if the format is not decoded to
its end. -/
theorem parameters_namedByKeywords {entries : List Entry} {ending : List Char}
    (ends : IsEnding ending) (format : c.format = written entries ending)
    (byKeyword : c.style.byKeyword = true)
    (enough : (entries.filterMap Entry.item?).length ≤ c.keywords.length) {project : Project}
    {s t : Session} {ps : List Parameter} (h : (parameters c).run project s = (.ok ps, t)) :
    ps.map Parameter.name = (c.keywords.take ps.length).map Parameter.givenName ∧
      ps.length ≤ (entries.filterMap Entry.item?).length ∧
      ∀ last, Decodes c project (.initial c) s (symbols c.format) ps last t →
        ps.length = (entries.filterMap Entry.item?).length := by
  have read : (symbols c.format).map Prod.fst = entries.flatMap Entry.symbols := by
    rw [format]
    exact map_symbols_written entries ends
  have total := after_entries entries (k := (Progress.initial c).cursor) rfl
  rw [← read, show (Progress.initial c).cursor.number = 0 from rfl, Nat.zero_add] at total
  obtain ⟨before, done, p, ⟨later, split⟩, reached, makes⟩ := reached_of_parameters h
  have few : ps.length ≤ (entries.filterMap Entry.item?).length := by
    rw [← makes.length_eq, reached.length_eq, ← total, ← split, foldl_append]
    exact number_le_after later _
  refine ⟨?_, few, fun last decodes => ?_⟩
  · refine ext_getElem ?_ fun i hi _ => ?_
    · rw [length_map, length_map, length_take]
      omega
    · rw [length_map] at hi
      have within : i < c.keywords.length := by omega
      have given : c.keywordAt i = some c.keywords[i] := by
        rw [ParseCall.keywordAt, if_pos byKeyword, getElem?_eq_getElem]
      rw [getElem_map, getElem_map, getElem_take]
      exact makes.name_of_keyword reached (getElem?_eq_getElem hi) given
  · obtain ⟨all, reached, makes⟩ := reached_of_decodes decodes
    rw [← makes.length_eq, reached.length_eq, total]

def keywordSpanCall : ParseCall where
  text := "PyArg_ParseTupleAndKeywords(args, kw, format, names)"
  arguments := ["args", "kw", "format", "names", "closed", "size", "PyUnicode_Type", "text", "scale",
    "span->to", "part", "text"]
  format := "s#(O!(ii))|d$p:span"
  keywords := ["text", "part", "scale", "closed", "spare"]
  style := keywordStyle
  declarations := ""
  firstNumber := 1
  path := ⟨["src", "SpanPy.xml"]⟩

theorem parameters_namedByKeywords_span : ∃ ps t,
    (parameters keywordSpanCall).run bareProject {} = (.ok ps, t) ∧
      ps.map Parameter.name = ["text", "part", "scale", "closed"] ∧
      ps.length = (spanEntries.filterMap Entry.item?).length := by
  obtain ⟨ps, last, t, finished⟩ : ∃ ps last t, Decodes keywordSpanCall bareProject
      (.initial keywordSpanCall) {} (symbols keywordSpanCall.format) ps last t :=
    exists_decodes_of_isDecoded (by decide +kernel)
  have run : (parameters keywordSpanCall).run bareProject {} = (.ok ps, t) :=
    Gen.run_bind_eq_ok.mpr ⟨(ps, some last), t, finished, rfl⟩
  have ends : IsEnding ":span".toList := by
    rintro c ⟨⟩
    rfl
  have format : keywordSpanCall.format = written spanEntries ":span".toList := by decide +kernel
  obtain ⟨names, -, complete⟩ :=
    parameters_namedByKeywords ends format rfl (by decide) run
  have length := complete last finished
  rw [length] at names
  exact ⟨ps, t, run, names, length⟩

def numberedCall : ParseCall where
  text := "PyArg_ParseTupleAndKeywords(args, kw, format, names)"
  arguments := ["args", "kw", "format", "names", "x"]
  format := "i"
  keywords := [".0"]
  style := keywordStyle
  declarations := ""
  firstNumber := 1
  path := ⟨["App", "Code.cpp"]⟩

/-- A keyword that stands for an unnamed argument is not the name of its parameter. -/
theorem name_ne_keyword_numbered : ∃ ps t,
    (parameters numberedCall).run bareProject {} = (.ok ps, t) ∧
      ps.map Parameter.name = ["implicit0"] ∧ numberedCall.keywords = [".0"] := by
  obtain ⟨ps, t, run, names, -⟩ := exists_of_parsedOutline
    (show parsedOutline numberedCall = some [("implicit0", .positional, false)] by decide +kernel)
  exact ⟨ps, t, run, names, rfl⟩

end BindingStubs.Format
