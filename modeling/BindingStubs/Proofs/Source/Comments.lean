import BindingStubs.Source.Comments
import Mathlib.Data.List.Basic
import Mathlib.Data.List.Infix

set_option autoImplicit false

/-! # Texts without comments -/

namespace BindingStubs.Source

open List

/-- What stands after the opening quote of a literal, through the closing one. -/
inductive Quoted (quote : Char) : List Char → Prop
  | close : Quoted quote [quote]
  | escaped (c : Char) {body : List Char} (more : Quoted quote body) :
      Quoted quote ('\\' :: c :: body)
  | plain {c : Char} {body : List Char} (inside : c ≠ quote) (bare : c ≠ '\\')
      (more : Quoted quote body) : Quoted quote (c :: body)

inductive IsLiteral : List Char → Prop
  | quoted {quote : Char} {body : List Char} (opens : isQuote quote = true)
      (closed : Quoted quote body) : IsLiteral (quote :: body)

inductive IsComment : List Char → Prop
  | line {body : List Char} (inLine : '\n' ∉ body) : IsComment ('/' :: '/' :: body)
  | block (body : List Char) : IsComment ('/' :: '*' :: (body ++ ['*', '/']))

inductive Lexeme where
  | comment (text : List Char)
  | literal (text : List Char)
  | other (c : Char)

namespace Lexeme

def shown : Lexeme → List Char
  | comment _ => [' ']
  | literal text => text
  | other c => [c]

def settled : Lexeme → Lexeme
  | comment _ => other ' '
  | lexeme => lexeme

end Lexeme

def shownText (lexemes : List Lexeme) : List Char := lexemes.flatMap Lexeme.shown

/-- A text is read as lexemes from the left. A line comment takes all of its line, a block comment
ends at the first possible place. -/
inductive Reads : List Char → List Lexeme → Prop
  | nil : Reads [] []
  | line {body rest : List Char} {lexemes : List Lexeme} (inLine : '\n' ∉ body)
      (ends : ∀ c ∈ rest.head?, c = '\n') (more : Reads rest lexemes) :
      Reads ('/' :: '/' :: (body ++ rest)) (.comment ('/' :: '/' :: body) :: lexemes)
  | block {body rest : List Char} {lexemes : List Lexeme}
      (first : ¬ ['*', '/'] <:+: body ++ ['*']) (more : Reads rest lexemes) :
      Reads ('/' :: '*' :: (body ++ '*' :: '/' :: rest))
        (.comment ('/' :: '*' :: (body ++ ['*', '/'])) :: lexemes)
  | literal {quote : Char} {body rest : List Char} {lexemes : List Lexeme}
      (opens : isQuote quote = true) (closed : Quoted quote body) (more : Reads rest lexemes) :
      Reads (quote :: (body ++ rest)) (.literal (quote :: body) :: lexemes)
  | other {c : Char} {rest : List Char} {lexemes : List Lexeme}
      (uncommented : ∀ t, IsComment t → ¬ t <+: c :: rest)
      (unquoted : ∀ t, IsLiteral t → ¬ t <+: c :: rest) (more : Reads rest lexemes) :
      Reads (c :: rest) (.other c :: lexemes)

theorem settled_shown (lexemes : List Lexeme) :
    shownText (lexemes.map Lexeme.settled) = shownText lexemes := by
  have same : ∀ lexeme : Lexeme, lexeme.settled.shown = lexeme.shown := by
    intro lexeme
    cases lexeme <;> rfl
  simp only [shownText, flatMap_map, same]

variable {c : Char}

theorem ne_backslash_of_isQuote (h : isQuote c = true) : c ≠ '\\' := by
  rintro rfl
  cases h

variable {quote : Char}

theorem closeLiteral?_append (ordinary : quote ≠ '\\') {body : List Char}
    (closed : Quoted quote body) (rest : List Char) :
    closeLiteral? quote (body ++ rest) = some (body, rest) := by
  induction closed with
  | close => simp [closeLiteral?, ordinary]
  | escaped c more ih => simp [closeLiteral?, ih]
  | plain inside bare more ih => simp [closeLiteral?, inside, bare, ih]

theorem quoted_of_closeLiteral? {cs body after : List Char}
    (h : closeLiteral? quote cs = some (body, after)) : Quoted quote body ∧ cs = body ++ after := by
  fun_induction closeLiteral? quote cs generalizing body with
  | case1 => cases h
  | case2 c rest ih =>
    obtain ⟨⟨inner, _⟩, found, same⟩ := Option.map_eq_some_iff.mp h
    cases same
    obtain ⟨closed, rfl⟩ := ih found
    exact ⟨.escaped c closed, rfl⟩
  | case3 c rest bare isEnd =>
    cases h
    rw [eq_of_beq isEnd]
    exact ⟨.close, rfl⟩
  | case4 => cases h
  | case5 c rest _ inside bare ih =>
    obtain ⟨⟨inner, _⟩, found, same⟩ := Option.map_eq_some_iff.mp h
    cases same
    obtain ⟨closed, rfl⟩ := ih found
    exact ⟨.plain (by simpa using inside) (by simpa using bare) closed, rfl⟩

theorem closeBlock?_append {body : List Char} (first : ¬ ['*', '/'] <:+: body ++ ['*'])
    (rest : List Char) : closeBlock? (body ++ '*' :: '/' :: rest) = some rest := by
  induction body with
  | nil => rfl
  | cons c body ih =>
    have later : ¬ ['*', '/'] <:+: body ++ ['*'] := fun h => first (infix_cons h)
    have here : ¬ ['*', '/'] <+: c :: (body ++ ['*']) := fun h => first h.isInfix
    rw [cons_append, closeBlock?.eq_def]
    split
    · next h => cases h
    · next next_ h =>
      exfalso
      apply here
      obtain ⟨rfl, tail⟩ := List.cons.inj h
      cases body with
      | nil => cases tail
      | cons d body =>
        obtain ⟨rfl, -⟩ := List.cons.inj tail
        exact ⟨body ++ ['*'], rfl⟩
    · next h =>
      obtain ⟨-, rfl⟩ := List.cons.inj h
      exact ih later

theorem eq_of_closeBlock? {cs after : List Char} (h : closeBlock? cs = some after) :
    ∃ body, cs = body ++ '*' :: '/' :: after ∧ ¬ ['*', '/'] <:+: body ++ ['*'] := by
  fun_induction closeBlock? cs with
  | case1 => cases h
  | case2 rest =>
    cases h
    exact ⟨[], rfl, by decide⟩
  | case3 c rest notEnd ih =>
    obtain ⟨body, rfl, first⟩ := ih h
    refine ⟨c :: body, rfl, fun found => ?_⟩
    rcases infix_cons_iff.mp found with here | later
    · obtain ⟨tail, same⟩ := here
      cases body with
      | nil => cases same
      | cons d body =>
        cases same
        exact notEnd _ rfl rfl
    · exact first later

theorem lineEnd_append {body rest : List Char} (inLine : '\n' ∉ body)
    (ends : ∀ c ∈ rest.head?, c = '\n') : lineEnd (body ++ rest) = rest := by
  induction body with
  | nil =>
    cases rest with
    | nil => rfl
    | cons c rest => simp [lineEnd, ends c rfl]
  | cons c body ih =>
    obtain ⟨ordinary, later⟩ := not_or.mp (mt mem_cons.mpr inLine)
    simp [lineEnd, Ne.symm ordinary, ih later]

theorem eq_of_lineEnd (cs : List Char) :
    ∃ body, cs = body ++ lineEnd cs ∧ '\n' ∉ body ∧ ∀ c ∈ (lineEnd cs).head?, c = '\n' := by
  induction cs with
  | nil => exact ⟨[], rfl, by simp, by simp [lineEnd]⟩
  | cons c rest ih =>
    rw [lineEnd]
    split
    · next isEnd => exact ⟨[], rfl, by simp, by simpa using eq_of_beq isEnd⟩
    · next ordinary =>
      obtain ⟨body, same, inLine, ends⟩ := ih
      refine ⟨c :: body, congrArg (c :: ·) same, ?_, ends⟩
      simpa [Ne.symm (by simpa using ordinary : c ≠ '\n')] using inLine

/-- One step of the search for the end of a literal, after an escape mark or not. There is no state
after the end. -/
def literalStep (quote : Char) (escaped : Bool) (c : Char) : Option Bool :=
  if escaped then some false else if c = quote then none else some (c == '\\')

/-- One step of the search for the end of a block comment, after a star or not. -/
def blockStep (starred : Bool) (c : Char) : Option Bool :=
  if starred && c == '/' then none else some (c == '*')

def NoEnd (step : Bool → Char → Option Bool) (state : Bool) (cs : List Char) : Prop :=
  ∃ last, cs.foldlM step state = some last

section
variable {step : Bool → Char → Option Bool}

theorem noEnd_nil (state : Bool) : NoEnd step state [] := ⟨state, rfl⟩

theorem noEnd_append {state : Bool} {xs ys : List Char} :
    NoEnd step state (xs ++ ys) ↔
      ∃ next, xs.foldlM step state = some next ∧ NoEnd step next ys := by
  simp only [NoEnd, foldlM_append, Option.bind_eq_bind, Option.bind_eq_some_iff]
  constructor
  · rintro ⟨last, next, hx, hy⟩
    exact ⟨next, hx, last, hy⟩
  · rintro ⟨next, hx, last, hy⟩
    exact ⟨last, next, hx, hy⟩

theorem noEnd_cons {state : Bool} {cs : List Char} :
    NoEnd step state (c :: cs) ↔ ∃ next, step state c = some next ∧ NoEnd step next cs := by
  have one : [c].foldlM step state = step state c := by simp
  rw [← one, ← noEnd_append, singleton_append]

end

variable {cs : List Char}

theorem closeLiteral?_eq_none_iff (ordinary : quote ≠ '\\') :
    closeLiteral? quote cs = none ↔ NoEnd (literalStep quote) false cs := by
  fun_induction closeLiteral? quote cs with
  | case1 => simp [noEnd_nil]
  | case2 c rest ih => simp [noEnd_cons, literalStep, Ne.symm ordinary, ih]
  | case3 c rest _ isEnd => simp [noEnd_cons, literalStep, eq_of_beq isEnd]
  | case4 c rest noMore inside escape =>
    obtain rfl := eq_of_beq escape
    cases rest with
    | nil => simp [noEnd_cons, noEnd_nil, literalStep, Ne.symm ordinary]
    | cons d rest => exact (noMore d rest rfl rfl).elim
  | case5 c rest _ inside bare ih =>
    rw [beq_iff_eq] at inside
    rw [Bool.not_eq_true] at bare
    simp [noEnd_cons, literalStep, inside, bare, ih]

theorem noEnd_blockStep (ordinary : c ≠ '/') {state : Bool} :
    NoEnd blockStep state (c :: cs) ↔ NoEnd blockStep (c == '*') cs := by
  simp [noEnd_cons, blockStep, ordinary]

theorem closeBlock?_eq_none_iff : closeBlock? cs = none ↔ NoEnd blockStep false cs := by
  fun_induction closeBlock? cs with
  | case1 => simp [noEnd_nil]
  | case2 rest => simp [noEnd_cons, blockStep]
  | case3 c rest notEnd ih =>
    have next_ : NoEnd blockStep false (c :: rest) ↔ NoEnd blockStep (c == '*') rest := by
      simp [noEnd_cons, blockStep]
    rw [next_, ih]
    by_cases star : c = '*'
    · subst star
      cases rest with
      | nil => simp [noEnd_nil]
      | cons d rest =>
        have ordinary : d ≠ '/' := fun slash => notEnd rest rfl (slash ▸ rfl)
        rw [noEnd_blockStep ordinary, noEnd_blockStep ordinary]
    · rw [beq_eq_false_iff_ne.mpr star]

/-- A search is in its first state after a space, after the end of a line and after a block comment,
unless it has found the end. -/
structure Forgets (step : Bool → Char → Option Bool) : Prop where
  space : ∀ state, step state ' ' = some false
  line : ∀ state, step state '\n' = some false
  block : ∀ state last, ['*', '/'].foldlM step state = some last → last = false

theorem forgets_literalStep (opens : isQuote quote = true) : Forgets (literalStep quote) := by
  have cases_ : quote = '\'' ∨ quote = '"' := by simpa [isQuote] using opens
  rcases cases_ with rfl | rfl <;>
  · refine ⟨fun state => ?_, fun state => ?_, fun state last h => ?_⟩
    · cases state <;> rfl
    · cases state <;> rfl
    · cases state <;> (cases h; rfl)

theorem forgets_blockStep : Forgets blockStep := by
  refine ⟨fun state => ?_, fun state => ?_, fun state last h => ?_⟩
  · cases state <;> rfl
  · cases state <;> rfl
  · cases state <;> cases h

variable {rest : List Char}

theorem closeLiteral?_of_unquoted (opens : isQuote c = true)
    (unquoted : ∀ t, IsLiteral t → ¬ t <+: c :: rest) : closeLiteral? c rest = none := by
  cases found : closeLiteral? c rest with
  | none => rfl
  | some parts =>
    obtain ⟨body, after⟩ := parts
    obtain ⟨closed, rfl⟩ := quoted_of_closeLiteral? found
    exact absurd ⟨after, rfl⟩ (unquoted _ (.quoted opens closed))

theorem closeBlock?_of_uncommented (uncommented : ∀ t, IsComment t → ¬ t <+: '/' :: '*' :: rest) :
    closeBlock? rest = none := by
  cases found : closeBlock? rest with
  | none => rfl
  | some after =>
    obtain ⟨body, rfl, -⟩ := eq_of_closeBlock? found
    refine absurd ⟨after, ?_⟩ (uncommented _ (.block body))
    simp

theorem stripComments_other (uncommented : ∀ t, IsComment t → ¬ t <+: c :: rest)
    (unquoted : ∀ t, IsLiteral t → ¬ t <+: c :: rest) :
    stripComments (c :: rest) = c :: stripComments rest := by
  rw [stripComments.eq_def]
  split
  · next h => cases h
  · next rest' h =>
    cases h
    exact absurd ⟨rest', rfl⟩ (uncommented ['/', '/'] (.line (by simp)))
  · next rest' h =>
    cases h
    split
    · next after found =>
      rw [closeBlock?_of_uncommented uncommented] at found
      cases found
    · rfl
  · next d rest' h =>
    cases h
    split
    · next opens =>
      split
      · next body after found =>
        rw [closeLiteral?_of_unquoted opens unquoted] at found
        cases found
      · rfl
    · rfl

theorem stripComments_quoted (opens : isQuote quote = true) {body : List Char}
    (closed : Quoted quote body) (rest : List Char) :
    stripComments (quote :: (body ++ rest)) = quote :: body ++ stripComments rest := by
  have found := closeLiteral?_append (ne_backslash_of_isQuote opens) closed rest
  rw [stripComments.eq_def]
  split
  · next h => cases h
  · next h =>
    rw [(List.cons.inj h).1] at opens
    cases opens
  · next h =>
    rw [(List.cons.inj h).1] at opens
    cases opens
  · next d rest' h =>
    obtain ⟨rfl, rfl⟩ := List.cons.inj h
    rw [if_pos opens]
    split
    · next found' =>
      rw [found] at found'
      cases found'
      rfl
    · next found' =>
      rw [found] at found'
      cases found'

variable {lexemes : List Lexeme}

theorem Reads.stripComments_eq (h : Reads cs lexemes) : stripComments cs = shownText lexemes := by
  induction h with
  | nil => simp [stripComments, shownText]
  | line inLine ends more ih =>
    rw [stripComments, lineEnd_append inLine ends, ih]
    rfl
  | block first more ih =>
    rw [stripComments]
    split
    · next found =>
      rw [closeBlock?_append first] at found
      cases found
      rw [ih]
      rfl
    · next found =>
      rw [closeBlock?_append first] at found
      cases found
  | literal opens closed more ih =>
    rw [stripComments_quoted opens closed, ih]
    rfl
  | other uncommented unquoted more ih =>
    rw [stripComments_other uncommented unquoted, ih]
    rfl

theorem uncommented_of (single : ∀ inner, c = '/' → rest ≠ '/' :: inner)
    (unclosed : ∀ inner, c = '/' → rest = '*' :: inner → closeBlock? inner = none) (t : List Char)
    (h : IsComment t) : ¬ t <+: c :: rest := by
  rintro ⟨tail, same⟩
  cases h with
  | line inLine =>
    obtain ⟨slash, tails⟩ := List.cons.inj same
    exact single _ slash.symm tails.symm
  | block body =>
    obtain ⟨slash, tails⟩ := List.cons.inj same
    have noEnd := closeBlock?_eq_none_iff.mp (unclosed _ slash.symm tails.symm)
    obtain ⟨last, found, -⟩ := noEnd_append.mp noEnd
    obtain ⟨state, -, _, closed⟩ := noEnd_append.mp ⟨last, found⟩
    cases state <;> cases closed

theorem unquoted_of (unclosed : isQuote c = true → closeLiteral? c rest = none) (t : List Char)
    (h : IsLiteral t) : ¬ t <+: c :: rest := by
  rintro ⟨tail, same⟩
  cases h with
  | quoted opens closed =>
    obtain ⟨rfl, tails⟩ := List.cons.inj same
    have found := closeLiteral?_append (ne_backslash_of_isQuote opens) closed tail
    rw [show _ ++ tail = rest from tails, unclosed opens] at found
    cases found

theorem exists_reads (cs : List Char) : ∃ lexemes, Reads cs lexemes := by
  induction cs using stripComments.induct with
  | case1 => exact ⟨[], .nil⟩
  | case2 rest ih =>
    obtain ⟨lexemes, more⟩ := ih
    obtain ⟨body, same, inLine, ends⟩ := eq_of_lineEnd rest
    rw [same]
    exact ⟨_, .line inLine ends more⟩
  | case3 rest after found ih =>
    obtain ⟨lexemes, more⟩ := ih
    obtain ⟨body, rfl, first⟩ := eq_of_closeBlock? found
    exact ⟨_, .block first more⟩
  | case4 rest unclosed ih =>
    obtain ⟨lexemes, more⟩ := ih
    refine ⟨_, .other (uncommented_of (by simp) ?_) (unquoted_of (by simp [isQuote])) more⟩
    rintro inner - ⟨⟩
    exact unclosed
  | case5 c rest noLine noBlock opens body after found ih =>
    obtain ⟨lexemes, more⟩ := ih
    obtain ⟨closed, rfl⟩ := quoted_of_closeLiteral? found
    exact ⟨_, .literal opens closed more⟩
  | case6 c rest noLine noBlock opens unclosed ih =>
    obtain ⟨lexemes, more⟩ := ih
    exact ⟨_, .other (uncommented_of noLine fun inner slash star => (noBlock inner slash star).elim)
      (unquoted_of fun _ => unclosed) more⟩
  | case7 c rest noLine noBlock ordinary ih =>
    obtain ⟨lexemes, more⟩ := ih
    exact ⟨_, .other (uncommented_of noLine fun inner slash star => (noBlock inner slash star).elim)
      (unquoted_of fun opens => absurd opens ordinary) more⟩

theorem Reads.noEnd {step : Bool → Char → Option Bool} (forgets : Forgets step)
    (h : Reads cs lexemes) (state : Bool) (open_ : NoEnd step state cs) :
    NoEnd step state (shownText lexemes) := by
  induction h generalizing state with
  | nil => exact noEnd_nil state
  | @line body rest lexemes inLine ends more ih =>
    rw [← cons_append, ← cons_append] at open_
    obtain ⟨next_, -, open_⟩ := noEnd_append.mp open_
    refine noEnd_cons.mpr ⟨false, forgets.space state, ih false ?_⟩
    cases rest with
    | nil => exact noEnd_nil false
    | cons c rest =>
      obtain rfl := ends c rfl
      rw [noEnd_cons, forgets.line] at open_ ⊢
      exact open_
  | @block body rest lexemes first more ih =>
    have split : '/' :: '*' :: (body ++ '*' :: '/' :: rest) =
        ('/' :: '*' :: body) ++ (['*', '/'] ++ rest) := rfl
    rw [split] at open_
    obtain ⟨before, -, open_⟩ := noEnd_append.mp open_
    obtain ⟨after, closed, open_⟩ := noEnd_append.mp open_
    obtain rfl := forgets.block before after closed
    exact noEnd_cons.mpr ⟨false, forgets.space state, ih false open_⟩
  | @literal quote body rest lexemes opens closed more ih =>
    rw [← cons_append] at open_
    obtain ⟨next_, same, open_⟩ := noEnd_append.mp open_
    exact noEnd_append.mpr ⟨next_, same, ih next_ open_⟩
  | other uncommented unquoted more ih =>
    obtain ⟨next_, same, open_⟩ := noEnd_cons.mp open_
    exact noEnd_cons.mpr ⟨next_, same, ih next_ open_⟩

theorem Reads.exists_other (h : Reads cs lexemes) {more : List Char}
    (shown : shownText lexemes = c :: more) (solid : c ≠ ' ') (ordinary : isQuote c = false) :
    ∃ rest later, cs = c :: rest ∧ Reads rest later ∧ shownText later = more := by
  cases h with
  | nil => cases shown
  | line | block => exact absurd (List.cons.inj shown).1.symm solid
  | literal opens closed later =>
    rw [(List.cons.inj shown).1, ordinary] at opens
    cases opens
  | other uncommented unquoted later =>
    obtain ⟨rfl, rest⟩ := List.cons.inj shown
    exact ⟨_, _, rfl, later, rest⟩

theorem reads_space (h : Reads cs lexemes) : Reads (' ' :: cs) (.other ' ' :: lexemes) :=
  .other (uncommented_of (by simp) (by simp)) (unquoted_of (by simp [isQuote])) h

theorem Reads.settled (h : Reads cs lexemes) :
    Reads (shownText lexemes) (lexemes.map Lexeme.settled) := by
  induction h with
  | nil => exact .nil
  | line inLine ends more ih => exact reads_space ih
  | block first more ih => exact reads_space ih
  | literal opens closed more ih => exact .literal opens closed ih
  | @other c rest lexemes uncommented unquoted more ih =>
    refine .other (uncommented_of ?_ ?_) (unquoted_of fun opens => ?_) ih
    · rintro inner rfl shown
      obtain ⟨rest, later, rfl, -, -⟩ := more.exists_other shown (by decide) (by decide)
      exact uncommented ['/', '/'] (.line (by simp)) ⟨rest, rfl⟩
    · rintro inner rfl shown
      obtain ⟨rest, later, rfl, more, rfl⟩ := more.exists_other shown (by decide) (by decide)
      have unclosed := closeBlock?_of_uncommented uncommented
      rw [closeBlock?_eq_none_iff] at unclosed ⊢
      exact more.noEnd forgets_blockStep false unclosed
    · have unclosed := closeLiteral?_of_unquoted opens unquoted
      rw [closeLiteral?_eq_none_iff (ne_backslash_of_isQuote opens)] at unclosed ⊢
      exact more.noEnd (forgets_literalStep opens) false unclosed

/-- Taking out comments twice is the same as once: the text without comments is read as the same
literals and other characters, with a space for each comment. -/
theorem withoutComments_withoutComments (s : String) :
    withoutComments (withoutComments s) = withoutComments s ∧
      ∃ lexemes, Reads s.toList lexemes ∧ (withoutComments s).toList = shownText lexemes ∧
        Reads (withoutComments s).toList (lexemes.map Lexeme.settled) := by
  obtain ⟨lexemes, read⟩ := exists_reads s.toList
  have once : (withoutComments s).toList = shownText lexemes := by
    rw [withoutComments, String.toList_ofList, read.stripComments_eq]
  refine ⟨?_, lexemes, read, once, once ▸ read.settled⟩
  calc withoutComments (withoutComments s)
      = String.ofList (stripComments (shownText lexemes)) := by rw [← once]; rfl
    _ = String.ofList (shownText (lexemes.map Lexeme.settled)) := by
      rw [read.settled.stripComments_eq]
    _ = String.ofList (shownText lexemes) := by rw [settled_shown]
    _ = withoutComments s := by rw [← once, String.ofList_toList]

end BindingStubs.Source
