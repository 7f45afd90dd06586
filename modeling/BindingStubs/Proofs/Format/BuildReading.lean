import BindingStubs.Proofs.Format.BuiltValues
import BindingStubs.Proofs.Steps
import Mathlib.Data.List.TakeWhile

set_option autoImplicit false

/-! # Reading build formats -/

namespace BindingStubs.Format.Build

open List

theorem toOption_bind {α β : Type} (x : Except Fault α) (f : α → Except Fault β) :
    (x >>= f).toOption = x.toOption.bind fun a => (f a).toOption := by
  cases x <;> rfl

theorem isAlpha_of_isUnitName {c : Char} {cs : List Char} (h : isUnitName (c :: cs) = true) :
    c.isAlpha = true := by
  match cs, h with
  | [], h => exact h
  | [_], h => exact (Bool.and_eq_true_iff.1 h).1

theorem closerOf_of_isAlpha {c : Char} (h : c.isAlpha = true) : closerOf c = none := by
  unfold closerOf
  split
  · cases h
  · cases h
  · cases h
  · rfl

theorem leadingUnit?_eq_none {c : Char} (h : c.isAlpha = false) (rest : List Char) :
    leadingUnit? (c :: rest) = none := by
  have hnone : ∀ cs, buildUnit? (c :: cs) = none := by
    intro cs
    rw [buildUnit?, Option.map_eq_none_iff, find?_eq_none]
    intro entry hentry heq
    have hname := isUnitName_of_mem hentry
    rw [beq_iff_eq.1 heq] at hname
    rw [isAlpha_of_isUnitName hname] at h
    cases h
  simp [leadingUnit?, hnone]

variable {sets : Listing String}

theorem buildTypes_refused {c : Char} (hcloser : closerOf c = none) (halpha : c.isAlpha = false)
    (fuel : Nat) (rest : List Char) : (buildTypes sets fuel (c :: rest)).toOption = none := by
  cases fuel with
  | zero => rfl
  | succ fuel =>
    rw [buildTypes, hcloser]
    simp only [leadingUnit?_eq_none halpha]
    rfl

variable {rest : List Char}

theorem buildTypes_unit (u : FormatUnit) (fuel : Nat) (hrest : IsUnmarked rest) :
    (buildTypes sets (fuel + 1) (u.name.toList ++ rest)).toOption =
      (buildTypes sets fuel rest).toOption.map (u.type :: ·) := by
  have hname := u.isUnitName
  have hlead := leadingUnit?_name u hrest
  match htext : u.name.toList with
  | [] =>
    rw [htext] at hname
    cases hname
  | c :: cs =>
    rw [htext] at hname hlead
    rw [cons_append] at hlead ⊢
    rw [buildTypes, closerOf_of_isAlpha (isAlpha_of_isUnitName hname)]
    simp only [hlead]
    rw [toOption_bind, ← cons_append, drop_left]
    cases buildTypes sets fuel rest <;> rfl

theorem buildTypes_group (b : Bracket) (inside : List Part) (fuel : Nat) (hrest : IsSolid rest) :
    (buildTypes sets (fuel + 1) ((Part.group b inside).text ++ rest)).toOption =
      (groupType sets fuel b.opening (textOf inside)).toOption.bind fun type =>
        (buildTypes sets fuel rest).toOption.map (type :: ·) := by
  have hinside := groupInside_group b inside hrest
  have hdrop : ((Part.group b inside).text ++ rest).drop ((textOf inside).length + 2) = rest := by
    rw [← length_text_group b, drop_left]
  rw [Part.text, cons_append] at hinside hdrop ⊢
  rw [buildTypes, b.closerOf_opening]
  simp only [hinside, hdrop]
  rw [toOption_bind]
  cases groupType sets fuel b.opening (textOf inside) with
  | error fault => rfl
  | ok type => cases buildTypes sets fuel rest <;> rfl

theorem buildTypes_unopened (fuel : Nat) (parts : List Part) (b : Bracket) (hrest : IsSolid rest) :
    (buildTypes sets fuel (textOf parts ++ b.closing :: rest)).toOption = none := by
  induction parts generalizing fuel with
  | nil => cases b <;> exact buildTypes_refused rfl rfl fuel rest
  | cons p parts ih =>
    have hclosing : IsSolid (b.closing :: rest) := by
      refine forall_mem_cons.2 ⟨?_, hrest⟩
      cases b <;> rfl
    have hsolid : IsSolid (textOf parts ++ b.closing :: rest) :=
      (isSolid_textOf parts).append hclosing
    have hunmarked : IsUnmarked (textOf parts ++ b.closing :: rest) := by
      refine isUnmarked_textOf parts ?_
      rintro c hc
      obtain rfl := Option.some.inj hc
      cases b <;> decide
    rw [textOf, append_assoc]
    cases fuel with
    | zero =>
      obtain ⟨c, cs, hp, -⟩ := p.exists_text_eq_cons
      rw [hp]
      rfl
    | succ fuel =>
      cases p with
      | unit u =>
        rw [Part.text, buildTypes_unit u fuel hunmarked, ih]
        rfl
      | comma => exact buildTypes_refused rfl rfl _ _
      | colon => exact buildTypes_refused rfl rfl _ _
      | group b' inside =>
        rw [buildTypes_group b' inside fuel hsolid, ih]
        cases groupType sets fuel b'.opening (textOf inside) <;> rfl

def Part.Reads (sets : Listing String) : Part → Prop
  | .group b inside => ∀ fuel, 2 * (textOf inside).length + 3 ≤ fuel →
      (groupType sets fuel b.opening (textOf inside)).toOption =
        (b.read (signsOf Bracket.read inside)).map (Built.type sets)
  | _ => True

variable {parts : List Part} {fuel : Nat}

theorem buildTypes_textOf (h : ∀ p ∈ parts, p.Reads sets)
    (hfuel : 2 * (textOf parts).length ≤ fuel) :
    (buildTypes sets fuel (textOf parts)).toOption =
      ((signsOf Bracket.read parts).mapM Sign.value?).map (List.map (Built.type sets)) := by
  induction parts generalizing fuel with
  | nil =>
    cases fuel <;> rfl
  | cons p parts ih =>
    rw [forall_mem_cons] at h
    obtain ⟨c, cs, hp, -⟩ := p.exists_text_eq_cons
    have hlength : (textOf (p :: parts)).length = p.text.length + (textOf parts).length := by
      rw [textOf, length_append]
    have hpositive : 0 < p.text.length := by
      rw [hp]
      exact Nat.succ_pos _
    obtain ⟨fuel, rfl⟩ : ∃ n, fuel = n + 1 := ⟨fuel - 1, by omega⟩
    have hunmarked : IsUnmarked (textOf parts ++ []) :=
      isUnmarked_textOf parts (by simp [IsUnmarked])
    have hrest : (buildTypes sets fuel (textOf parts)).toOption = _ := ih h.2 (by omega)
    rw [append_nil] at hunmarked
    rw [textOf, signsOf, mapM_cons]
    cases p with
    | unit u =>
      rw [Part.text, buildTypes_unit u fuel hunmarked, hrest]
      cases (signsOf Bracket.read parts).mapM Sign.value? <;> rfl
    | comma => exact buildTypes_refused rfl rfl _ _
    | colon => exact buildTypes_refused rfl rfl _ _
    | group b inside =>
      have hgroup := h.1 fuel (by rw [length_text_group] at hlength; omega)
      rw [buildTypes_group b inside fuel (isSolid_textOf parts), hrest, hgroup, Part.sign]
      cases b.read (signsOf Bracket.read inside) with
      | none => rfl
      | some v => cases (signsOf Bracket.read parts).mapM Sign.value? <;> rfl

theorem filter_of_isSolid {cs : List Char} (h : IsSolid cs) : cs.filter (· != ' ') = cs := by
  rw [filter_eq_self]
  intro c hc
  have hspacing := h c hc
  rw [isSpacing, Bool.or_assoc, Bool.or_eq_false_iff] at hspacing
  rw [bne, hspacing.1]
  rfl

theorem buildTypeIn_of_filter (h : ∀ p ∈ parts, p.Reads sets) {format : List Char}
    (hformat : format.filter (· != ' ') = textOf parts)
    (hfuel : 2 * (textOf parts).length + 1 ≤ fuel) :
    (buildTypeIn sets fuel format).toOption =
      (whole (signsOf Bracket.read parts)).map (Built.type sets) := by
  obtain ⟨fuel, rfl⟩ : ∃ n, fuel = n + 1 := ⟨fuel - 1, by omega⟩
  rw [buildTypeIn, hformat, toOption_bind, buildTypes_textOf h (by omega), whole]
  cases (signsOf Bracket.read parts).mapM Sign.value? with
  | none => rfl
  | some vs =>
    simp only [Option.map_some, Option.bind_some, type_gathered]
    match vs.map (Built.type sets) with
    | [] => rfl
    | [_] => rfl
    | _ :: _ :: _ => rfl

theorem buildTypeIn_textOf (h : ∀ p ∈ parts, p.Reads sets)
    (hfuel : 2 * (textOf parts).length + 1 ≤ fuel) :
    (buildTypeIn sets fuel (textOf parts)).toOption =
      (whole (signsOf Bracket.read parts)).map (Built.type sets) :=
  buildTypeIn_of_filter h (filter_of_isSolid (isSolid_textOf parts)) hfuel

theorem flatten_splitOnP {α : Type} (P : α → Bool) (xs : List α) :
    (xs.splitOnP P).flatten = xs.filter (!P ·) := by
  induction xs with
  | nil => rfl
  | cons x xs ih =>
    rw [splitOnP_cons_eq_if_modifyHead, filter_cons, ← ih]
    cases hsplit : xs.splitOnP P with
    | nil => exact absurd hsplit (splitOnP_ne_nil P xs)
    | cons first others => cases hx : P x <;> simp

theorem mem_of_mem_splitOnP {α : Type} {P : α → Bool} {xs piece : List α} {x : α}
    (hpiece : piece ∈ xs.splitOnP P) (hx : x ∈ piece) : x ∈ xs := by
  have hmem := mem_flatten_of_mem hpiece hx
  rw [flatten_splitOnP] at hmem
  exact mem_of_mem_filter hmem

theorem splitOnP_signsOf (read : Bracket → List Sign → Option Built) (parts : List Part) :
    (signsOf read parts).splitOnP Sign.isComma =
      (parts.splitOnP Part.isComma).map (signsOf read) := by
  induction parts with
  | nil => rfl
  | cons p parts ih =>
    rw [signsOf, splitOnP_cons_eq_if_modifyHead, splitOnP_cons_eq_if_modifyHead,
      isComma_sign, ih]
    split
    · rfl
    · cases parts.splitOnP Part.isComma <;> rfl

variable {inside : List Part}

theorem read_round (inner : Bracket → List Sign → Option Built) (h : inside ≠ []) :
    Bracket.round.read (signsOf inner inside) =
      (((inside.splitOnP Part.isComma).map (signsOf inner)).mapM whole).map tupled := by
  rw [← splitOnP_signsOf]
  cases inside with
  | nil => exact absurd rfl h
  | cons p inside => rfl

theorem read_square (inner : Bracket → List Sign → Option Built) (inside : List Part) :
    Bracket.square.read (signsOf inner inside) =
      (((inside.splitOnP Part.isComma).map (signsOf inner)).mapM whole).map .list := by
  rw [← splitOnP_signsOf]
  rfl

theorem read_curly (inner : Bracket → List Sign → Option Built) (inside : List Part) :
    Bracket.curly.read (signsOf inner inside) =
      (((inside.splitOnP Part.isComma).map (signsOf inner)).mapM readEntry).map .dict := by
  rw [← splitOnP_signsOf]
  rfl

def spread : List (List Char) → Nat
  | [] => 0
  | piece :: pieces => piece.length + 1 + spread pieces

theorem spread_pieces (parts : List Part) :
    spread ((parts.splitOnP Part.isComma).map textOf) = (textOf parts).length + 1 := by
  induction parts with
  | nil => rfl
  | cons p parts ih =>
    rw [splitOnP_cons_eq_if_modifyHead, textOf, length_append]
    split
    · next hp =>
      cases p <;> cases hp
      rw [map_cons, spread, ih]
      simp [textOf, Part.text]
      omega
    · cases hsplit : parts.splitOnP Part.isComma with
      | nil => exact absurd hsplit (splitOnP_ne_nil _ parts)
      | cons first others =>
        rw [hsplit, map_cons, spread] at ih
        rw [modifyHead_cons, map_cons, spread, textOf, length_append]
        omega

variable {pieces : List (List Part)}

theorem built_pieces {α β : Type} {all : Nat → List (List Char) → Except Fault (List β)}
    {one : Nat → List Char → Except Fault β} {read : List Sign → Option α} {type : α → β}
    (hnil : ∀ fuel, all fuel [] = .ok [])
    (hcons : ∀ fuel piece rest, all (fuel + 1) (piece :: rest) = do
      let first ← one fuel piece
      return first :: (← all fuel rest))
    (hone : ∀ {parts : List Part} {fuel : Nat}, (∀ p ∈ parts, p.Reads sets) →
      2 * (textOf parts).length + 1 ≤ fuel →
      (one fuel (textOf parts)).toOption = (read (signsOf Bracket.read parts)).map type)
    (h : ∀ piece ∈ pieces, ∀ p ∈ piece, p.Reads sets)
    (hfuel : 2 * spread (pieces.map textOf) ≤ fuel) :
    (all fuel (pieces.map textOf)).toOption =
      ((pieces.map (signsOf Bracket.read)).mapM read).map (List.map type) := by
  induction pieces generalizing fuel with
  | nil =>
    rw [map_nil, hnil]
    rfl
  | cons piece pieces ih =>
    rw [forall_mem_cons] at h
    rw [map_cons, spread] at hfuel
    obtain ⟨fuel, rfl⟩ : ∃ n, fuel = n + 1 := ⟨fuel - 1, by omega⟩
    have hrest : (all fuel (pieces.map textOf)).toOption = _ := ih h.2 (by omega)
    rw [map_cons, map_cons, mapM_cons, hcons, toOption_bind, hone h.1 (by omega)]
    simp only [toOption_bind, hrest]
    cases read (signsOf Bracket.read piece) with
    | none => rfl
    | some v => cases (pieces.map (signsOf Bracket.read)).mapM read <;> rfl

theorem buildAll_pieces (h : ∀ piece ∈ pieces, ∀ p ∈ piece, p.Reads sets)
    (hfuel : 2 * spread (pieces.map textOf) ≤ fuel) :
    (buildAll sets fuel (pieces.map textOf)).toOption =
      ((pieces.map (signsOf Bracket.read)).mapM whole).map (List.map (Built.type sets)) := by
  refine built_pieces (fun fuel => ?_) (fun _ _ _ => ?_) buildTypeIn_textOf h hfuel
  · cases fuel <;> rfl
  · rw [buildAll]

theorem exists_first_colon (h : ':' ∈ textOf parts) :
    ∃ before p after, parts = before ++ p :: after ∧ ':' ∉ textOf before ∧ ':' ∈ p.text := by
  induction parts with
  | nil => cases h
  | cons p parts ih =>
    by_cases hp : ':' ∈ p.text
    · exact ⟨[], p, parts, rfl, not_mem_nil, hp⟩
    · rw [textOf, mem_append, or_iff_right hp] at h
      obtain ⟨before, q, after, rfl, hbefore, hq⟩ := ih h
      refine ⟨p :: before, q, after, rfl, ?_, hq⟩
      rw [textOf, mem_append, not_or]
      exact ⟨hp, hbefore⟩

theorem FormatUnit.colon_notMem (u : FormatUnit) : ':' ∉ u.name.toList :=
  fun h => absurd (u.isUnitChar_of_mem h) (by decide)

theorem Part.exists_unopened {p : Part} (hp : p.isColon = false) (h : ':' ∈ p.text) :
    ∃ before parts b rest, p.text = before ++ ':' :: (textOf parts ++ Bracket.closing b :: rest) ∧
      ':' ∉ before := by
  induction p using Part.ind with
  | unit u => exact absurd h u.colon_notMem
  | comma => simp [Part.text] at h
  | colon => cases hp
  | group b inside ih =>
    have hopening : ':' ≠ b.opening := by cases b <;> decide
    have hclosing : ':' ≠ b.closing := by cases b <;> decide
    have hinside : ':' ∈ textOf inside := by
      simpa [Part.text, hopening, hclosing] using h
    obtain ⟨before, q, after, rfl, hbefore, hq⟩ := exists_first_colon hinside
    have hnot : ∀ {cs : List Char}, ':' ∉ cs → ':' ∉ b.opening :: (textOf before ++ cs) := by
      intro cs hcs
      simp [hopening, hbefore, hcs]
    cases hcolon : q.isColon with
    | true =>
      cases q <;> cases hcolon
      refine ⟨b.opening :: (textOf before ++ []), after, b, [], ?_, hnot not_mem_nil⟩
      simp [Part.text, textOf_append, textOf]
    | false =>
      obtain ⟨cs, parts, b', rest, htext, hcs⟩ := ih q (by simp) hcolon hq
      refine ⟨b.opening :: (textOf before ++ cs), parts, b',
        rest ++ (textOf after ++ [b.closing]), ?_, hnot hcs⟩
      simp [Part.text, textOf_append, textOf, htext]

theorem mem_textOf {p : Part} {c : Char} (hp : p ∈ parts) (hc : c ∈ p.text) : c ∈ textOf parts := by
  obtain ⟨before, after, rfl⟩ := append_of_mem hp
  rw [textOf_append, textOf, mem_append, mem_append]
  exact .inr (.inl hc)

theorem colon_mem_group {b : Bracket} : ':' ∈ (Part.group b inside).text ↔ ':' ∈ textOf inside := by
  cases b <;> simp [Part.text, Bracket.opening, Bracket.closing]

theorem colon_mem_pieces :
    ':' ∈ textOf parts ↔ ∃ piece ∈ parts.splitOnP Part.isComma, ':' ∈ textOf piece := by
  induction parts with
  | nil => simp [textOf]
  | cons p parts ih =>
    rw [textOf, mem_append, ih, splitOnP_cons_eq_if_modifyHead]
    split
    · next hp =>
      cases p <;> cases hp
      simp [Part.text, textOf]
    · cases hsplit : parts.splitOnP Part.isComma with
      | nil => exact absurd hsplit (splitOnP_ne_nil _ parts)
      | cons first others => simp [textOf, or_assoc]

/-- A part that is read as a value has a colon in its text if the value has a dictionary in it. -/
def Part.ShowsDict (p : Part) : Prop :=
  ∀ v, p.sign Bracket.read = .value (some v) → (v.hasDict = true ↔ ':' ∈ p.text)

theorem anyHasDict_values (h : ∀ p ∈ parts, p.ShowsDict) {vs : List Built}
    (hvs : (signsOf Bracket.read parts).mapM Sign.value? = some vs) :
    anyHasDict vs = true ↔ ':' ∈ textOf parts := by
  induction parts generalizing vs with
  | nil =>
    obtain rfl := Option.some.inj hvs
    simp [anyHasDict, textOf]
  | cons p parts ih =>
    rw [forall_mem_cons] at h
    rw [signsOf, mapM_cons_eq_some] at hvs
    obtain ⟨v, others, hv, hothers, rfl⟩ := hvs
    have hsign : p.sign Bracket.read = .value (some v) := by
      cases hp : p.sign Bracket.read <;> rw [hp] at hv <;> cases hv
      rfl
    rw [anyHasDict, Bool.or_eq_true, h.1 v hsign, ih h.2 hothers, textOf, mem_append]

theorem hasDict_whole (h : ∀ p ∈ parts, p.ShowsDict) {v : Built}
    (hv : whole (signsOf Bracket.read parts) = some v) : v.hasDict = true ↔ ':' ∈ textOf parts := by
  obtain ⟨vs, hvs, rfl⟩ := Option.map_eq_some_iff.1 hv
  rw [hasDict_gathered, anyHasDict_values h hvs]

theorem anyHasDict_pieces (h : ∀ piece ∈ pieces, ∀ p ∈ piece, p.ShowsDict) {vs : List Built}
    (hvs : (pieces.map (signsOf Bracket.read)).mapM whole = some vs) :
    anyHasDict vs = true ↔ ∃ piece ∈ pieces, ':' ∈ textOf piece := by
  induction pieces generalizing vs with
  | nil =>
    obtain rfl := Option.some.inj hvs
    simp [anyHasDict]
  | cons piece pieces ih =>
    rw [forall_mem_cons] at h
    rw [map_cons, mapM_cons_eq_some] at hvs
    obtain ⟨v, others, hv, hothers, rfl⟩ := hvs
    rw [anyHasDict, Bool.or_eq_true, hasDict_whole h.1 hv, ih h.2 hothers]
    simp

theorem isColon_of_notMem (h : ':' ∉ textOf parts) :
    ∀ s ∈ signsOf Bracket.read parts, (!s.isColon) = true := by
  rw [signsOf_eq, forall_mem_map]
  intro p hp
  rw [isColon_sign]
  cases p with
  | colon => exact absurd (mem_textOf hp mem_cons_self) h
  | _ => rfl

theorem readEntry_eq_none (h : ':' ∉ textOf parts) :
    readEntry (signsOf Bracket.read parts) = none := by
  rw [readEntry, dropWhile_eq_nil_iff.2 (isColon_of_notMem h)]

theorem Part.showsDict (p : Part) : p.ShowsDict := by
  induction p using Part.ind with
  | unit u =>
    rintro v ⟨⟩
    simp [Built.hasDict, Part.text, u.colon_notMem]
  | comma => rintro v ⟨⟩
  | colon => rintro v ⟨⟩
  | group b inside ih =>
    intro v hv
    have hpieces : ∀ piece ∈ inside.splitOnP Part.isComma, ∀ p ∈ piece, p.ShowsDict :=
      fun piece hpiece p hp => ih p (mem_of_mem_splitOnP hpiece hp)
    rw [Part.sign, Sign.value.injEq] at hv
    rw [colon_mem_group]
    cases b with
    | round =>
      by_cases hinside : inside = []
      · subst hinside
        obtain rfl := Option.some.inj hv
        simp [Built.hasDict, anyHasDict, textOf]
      · rw [read_round _ hinside] at hv
        obtain ⟨vs, hvs, rfl⟩ := Option.map_eq_some_iff.1 hv
        rw [hasDict_tupled, anyHasDict_pieces hpieces hvs, colon_mem_pieces]
    | square =>
      rw [read_square] at hv
      obtain ⟨vs, hvs, rfl⟩ := Option.map_eq_some_iff.1 hv
      rw [Built.hasDict, anyHasDict_pieces hpieces hvs, colon_mem_pieces]
    | curly =>
      rw [read_curly] at hv
      obtain ⟨entries, hentries, rfl⟩ := Option.map_eq_some_iff.1 hv
      refine iff_of_true rfl (colon_mem_pieces.2 ?_)
      cases hsplit : inside.splitOnP Part.isComma with
      | nil => exact absurd hsplit (splitOnP_ne_nil _ inside)
      | cons piece pieces =>
        rw [hsplit, map_cons, mapM_cons_eq_some] at hentries
        obtain ⟨entry, _, hentry, -⟩ := hentries
        refine ⟨piece, mem_cons_self, by_contra fun hcolon => ?_⟩
        rw [readEntry_eq_none hcolon] at hentry
        cases hentry

def entryType (sets : Listing String) (fuel : Nat) (piece : List Char) :
    Except Fault (String × String) :=
  match Chars.cutFirst? piece [':'] with
  | none => .error .badValue
  | some (key, value) => do
    let key ← buildTypeIn sets fuel key
    let value ← buildTypeIn sets fuel value
    return (key, value)

theorem buildEntries_cons (fuel : Nat) (piece : List Char) (pieces : List (List Char)) :
    buildEntries sets (fuel + 1) (piece :: pieces) = do
      let entry ← entryType sets fuel piece
      return entry :: (← buildEntries sets fuel pieces) := by
  rw [buildEntries, entryType]
  cases Chars.cutFirst? piece [':'] with
  | none => rfl
  | some cut =>
    obtain ⟨key, value⟩ := cut
    dsimp only
    cases buildTypeIn sets fuel key with
    | error fault => rfl
    | ok key => cases buildTypeIn sets fuel value <;> rfl

theorem buildTypeIn_unopened (fuel : Nat) (parts : List Part) (b : Bracket)
    (hsolid : IsSolid (textOf parts ++ b.closing :: rest)) :
    (buildTypeIn sets fuel (textOf parts ++ b.closing :: rest)).toOption = none := by
  have hrest : IsSolid rest := fun c hc =>
    hsolid c (mem_append_right _ (mem_cons_of_mem _ hc))
  cases fuel with
  | zero => rfl
  | succ fuel =>
    rw [buildTypeIn, filter_of_isSolid hsolid, toOption_bind, buildTypes_unopened fuel parts b hrest]
    rfl

theorem entryType_cut (fuel : Nat) {key : List Char} (hkey : ':' ∉ key) (value : List Char) :
    (entryType sets fuel (key ++ ':' :: value)).toOption =
      (buildTypeIn sets fuel key).toOption.bind fun keyType =>
        (buildTypeIn sets fuel value).toOption.map fun valueType => (keyType, valueType) := by
  rw [entryType, Chars.cutFirst?_of_notMem hkey]
  dsimp only
  cases buildTypeIn sets fuel key with
  | error fault => rfl
  | ok keyType => cases buildTypeIn sets fuel value <;> rfl

theorem readEntry_colon {before : List Part} (hbefore : ':' ∉ textOf before) (after : List Part) :
    readEntry (signsOf Bracket.read (before ++ Part.colon :: after)) =
      (whole (signsOf Bracket.read before)).bind fun key =>
        (whole (signsOf Bracket.read after)).map fun value => (key, value) := by
  have hsigns : signsOf Bracket.read (before ++ Part.colon :: after) =
      signsOf Bracket.read before ++ Sign.colon :: signsOf Bracket.read after := by
    simp [signsOf_eq, Part.sign]
  have hnot := isColon_of_notMem hbefore
  rw [hsigns, readEntry, dropWhile_append_of_pos hnot, takeWhile_append_of_pos hnot,
    dropWhile_cons_of_neg (by decide), takeWhile_cons_of_neg (by decide), append_nil]
  dsimp only
  cases hkey : whole (signsOf Bracket.read before) with
  | none => rfl
  | some key =>
    have hdict : ¬ key.hasDict = true := fun hdict =>
      hbefore ((hasDict_whole (fun p _ => p.showsDict) hkey).1 hdict)
    cases whole (signsOf Bracket.read after) with
    | none => rfl
    | some value => simp [hdict]

variable {before after : List Part}

theorem entryType_colon (hbefore : ':' ∉ textOf before)
    (h : ∀ p ∈ before ++ Part.colon :: after, p.Reads sets)
    (hfuel : 2 * (textOf (before ++ Part.colon :: after)).length + 1 ≤ fuel) :
    (entryType sets fuel (textOf (before ++ Part.colon :: after))).toOption =
      (readEntry (signsOf Bracket.read (before ++ Part.colon :: after))).map fun entry =>
        (entry.1.type sets, entry.2.type sets) := by
  have htext : textOf (before ++ Part.colon :: after) = textOf before ++ ':' :: textOf after := by
    rw [textOf_append, textOf]
    rfl
  rw [htext, length_append, length_cons] at hfuel
  rw [htext, entryType_cut fuel hbefore, readEntry_colon hbefore,
    buildTypeIn_textOf (fun p hp => h p (mem_append_left _ hp)) (by omega),
    buildTypeIn_textOf (fun p hp => h p (mem_append_right _ (mem_cons_of_mem _ hp)))
      (by omega)]
  cases whole (signsOf Bracket.read before) with
  | none => rfl
  | some key => cases whole (signsOf Bracket.read after) <;> rfl

/-- The first colon stands inside of a group, so what is cut off there opens with the rest of it. -/
theorem entryType_group {p : Part} (hbefore : ':' ∉ textOf before) (hp : ':' ∈ p.text)
    (hcolon : p.isColon = false) (fuel : Nat) :
    (entryType sets fuel (textOf (before ++ p :: after))).toOption = none := by
  obtain ⟨cs, parts, b, rest, htext, hcs⟩ := p.exists_unopened hcolon hp
  have hcut : textOf (before ++ p :: after) =
      (textOf before ++ cs) ++ ':' :: (textOf parts ++ b.closing :: (rest ++ textOf after)) := by
    rw [textOf_append, textOf, htext]
    simp
  have hsolid : IsSolid (textOf parts ++ b.closing :: (rest ++ textOf after)) := by
    have hall := isSolid_textOf (before ++ p :: after)
    rw [hcut] at hall
    exact fun c hc => hall c (mem_append_right _ (mem_cons_of_mem _ hc))
  have hkey : ':' ∉ textOf before ++ cs := by
    rw [mem_append, not_or]
    exact ⟨hbefore, hcs⟩
  rw [hcut, entryType_cut fuel hkey, buildTypeIn_unopened fuel parts b hsolid]
  cases buildTypeIn sets fuel (textOf before ++ cs) <;> rfl

theorem readEntry_group {p : Part} (hbefore : ':' ∉ textOf before) (hp : ':' ∈ p.text)
    (hcolon : p.isColon = false) :
    readEntry (signsOf Bracket.read (before ++ p :: after)) = none := by
  have hsigns : (signsOf Bracket.read (before ++ p :: after)).takeWhile (!·.isColon) =
      signsOf Bracket.read (before ++ p :: after.takeWhile (!·.isColon)) := by
    have hwhile : ∀ parts, (signsOf Bracket.read parts).takeWhile (!·.isColon) =
        signsOf Bracket.read (parts.takeWhile (!·.isColon)) := by
      intro parts
      simp only [signsOf_eq, takeWhile_map, Function.comp_def, isColon_sign]
    have hnot : ∀ q ∈ before, (!q.isColon) = true := by
      intro q hq
      have h := isColon_of_notMem hbefore (q.sign Bracket.read)
      rw [signsOf_eq, isColon_sign] at h
      exact h (mem_map_of_mem hq)
    rw [hwhile, takeWhile_append_of_pos hnot, takeWhile_cons_of_pos (by rw [hcolon]; rfl)]
  rw [readEntry]
  split
  · rfl
  · rw [hsigns]
    cases hkey : whole (signsOf Bracket.read (before ++ p :: after.takeWhile (!·.isColon))) with
    | none => rfl
    | some key =>
      have hdict : key.hasDict = true := by
        rw [hasDict_whole (fun p _ => p.showsDict) hkey]
        exact mem_textOf (mem_append_right _ mem_cons_self) hp
      next after' _ => cases whole after' <;> simp [hdict]

theorem entryType_textOf (h : ∀ p ∈ parts, p.Reads sets)
    (hfuel : 2 * (textOf parts).length + 1 ≤ fuel) :
    (entryType sets fuel (textOf parts)).toOption =
      (readEntry (signsOf Bracket.read parts)).map
        fun entry => (entry.1.type sets, entry.2.type sets) := by
  by_cases hcolon : ':' ∈ textOf parts
  · obtain ⟨before, p, after, rfl, hbefore, hp⟩ := exists_first_colon hcolon
    cases hsign : p.isColon with
    | true =>
      cases p <;> cases hsign
      exact entryType_colon hbefore h hfuel
    | false =>
      rw [entryType_group hbefore hp hsign, readEntry_group hbefore hp hsign, Option.map_none]
  · rw [entryType, Chars.cutFirst?_eq_none hcolon, readEntry_eq_none hcolon]
    rfl

theorem buildEntries_pieces (h : ∀ piece ∈ pieces, ∀ p ∈ piece, p.Reads sets)
    (hfuel : 2 * spread (pieces.map textOf) ≤ fuel) :
    (buildEntries sets fuel (pieces.map textOf)).toOption =
      ((pieces.map (signsOf Bracket.read)).mapM readEntry).map
        (List.map fun entry => (entry.1.type sets, entry.2.type sets)) := by
  refine built_pieces (fun fuel => ?_) buildEntries_cons entryType_textOf h hfuel
  cases fuel <;> rfl

theorem splitOnP_ne_singleton_nil (h : inside ≠ []) : inside.splitOnP Part.isComma ≠ [[]] := by
  cases inside with
  | nil => exact absurd rfl h
  | cons p inside =>
    rw [splitOnP_cons_eq_if_modifyHead]
    split
    · simp
    · cases inside.splitOnP Part.isComma <;> simp

theorem reads_pieces (h : ∀ p ∈ inside, p.Reads sets) :
    ∀ piece ∈ inside.splitOnP Part.isComma, ∀ p ∈ piece, p.Reads sets :=
  fun _ hpiece p hp => h p (mem_of_mem_splitOnP hpiece hp)

theorem reads_round (h : ∀ p ∈ inside, p.Reads sets) : (Part.group .round inside).Reads sets := by
  intro fuel hfuel
  obtain ⟨fuel, rfl⟩ : ∃ n, fuel = n + 1 := ⟨fuel - 1, by omega⟩
  have hpieces := reads_pieces h
  have hspread := spread_pieces inside
  rw [groupType, groupPieces_textOf, if_neg (by decide), if_neg (by decide)]
  by_cases hinside : inside = []
  · subst hinside
    rfl
  rw [read_round _ hinside]
  match hsplit : inside.splitOnP Part.isComma with
  | [] => exact absurd hsplit (splitOnP_ne_nil _ inside)
  | [[]] => exact absurd hsplit (splitOnP_ne_singleton_nil hinside)
  | [p :: piece] =>
    rw [hsplit] at hpieces hspread
    rw [map_singleton, spread, spread] at hspread
    have htype : (buildTypeIn sets fuel (textOf (p :: piece))).toOption = _ :=
      buildTypeIn_textOf (hpieces _ mem_cons_self) (by omega)
    obtain ⟨c, cs, hp, -⟩ := p.exists_text_eq_cons
    rw [map_singleton, map_singleton, textOf, hp]
    rw [textOf, hp] at htype
    refine (toOption_bind _ _).trans ?_
    rw [htype, mapM_cons]
    cases whole (signsOf Bracket.read (p :: piece)) with
    | none => rfl
    | some v => exact congrArg some (singleTuple_type sets v)
  | piece :: piece' :: pieces =>
    rw [hsplit] at hpieces hspread
    have hall : (buildAll sets fuel ((piece :: piece' :: pieces).map textOf)).toOption = _ :=
      buildAll_pieces hpieces (by omega)
    split
    · next heq => simp at heq
    · next heq => simp at heq
    · rw [toOption_bind, hall]
      cases hvs : ((piece :: piece' :: pieces).map (signsOf Bracket.read)).mapM whole with
      | none => rfl
      | some vs =>
        rw [map_cons, map_cons, mapM_cons_eq_some] at hvs
        obtain ⟨v, _, -, hothers, rfl⟩ := hvs
        obtain ⟨w, others, -, -, rfl⟩ := mapM_cons_eq_some.1 hothers
        exact congrArg some (type_tuple sets (by simp)).symm

theorem reads_square (h : ∀ p ∈ inside, p.Reads sets) : (Part.group .square inside).Reads sets := by
  intro fuel hfuel
  obtain ⟨fuel, rfl⟩ : ∃ n, fuel = n + 1 := ⟨fuel - 1, by omega⟩
  have hpieces := reads_pieces h
  have hspread := spread_pieces inside
  rw [groupType, groupPieces_textOf, if_neg (by decide), if_pos (by decide), toOption_bind,
    buildAll_pieces hpieces (by omega), read_square]
  cases ((inside.splitOnP Part.isComma).map (signsOf Bracket.read)).mapM whole with
  | none => rfl
  | some vs =>
    simp only [Option.map_some, Option.bind_some, Built.type, typesOf_eq]
    rfl

theorem reads_curly (h : ∀ p ∈ inside, p.Reads sets) : (Part.group .curly inside).Reads sets := by
  intro fuel hfuel
  obtain ⟨fuel, rfl⟩ : ∃ n, fuel = n + 1 := ⟨fuel - 1, by omega⟩
  have hpieces := reads_pieces h
  have hspread := spread_pieces inside
  rw [groupType, groupPieces_textOf, if_pos (by decide), toOption_bind,
    buildEntries_pieces hpieces (by omega), read_curly]
  cases ((inside.splitOnP Part.isComma).map (signsOf Bracket.read)).mapM readEntry with
  | none => rfl
  | some entries =>
    simp only [Option.map_some, Option.bind_some, Built.type, keyTypes_eq, valueTypes_eq,
      map_map]
    rfl

theorem Part.reads (p : Part) : p.Reads sets := by
  induction p using Part.ind with
  | unit u => trivial
  | comma => trivial
  | colon => trivial
  | group b inside ih =>
    cases b with
    | round => exact reads_round ih
    | square => exact reads_square ih
    | curly => exact reads_curly ih

/-- The format is written as these parts, with spaces anywhere. -/
def Spells (format : String) (parts : List Part) : Prop :=
  format.toList.filter (· != ' ') = textOf parts

instance (format : String) (parts : List Part) : Decidable (Spells format parts) :=
  inferInstanceAs (Decidable (format.toList.filter (· != ' ') = textOf parts))

def readOf (parts : List Part) : Option Built := whole (signsOf Bracket.read parts)

theorem buildType_of_spells {format : String} (h : Spells format parts) :
    (buildType sets format).toOption = (readOf parts).map (Built.type sets) := by
  have hlength : (textOf parts).length ≤ format.toList.length := by
    rw [← h]
    exact length_filter_le _ _
  refine buildTypeIn_of_filter (fun p _ => p.reads) h ?_
  rw [buildFuel]
  omega

end BindingStubs.Format.Build
