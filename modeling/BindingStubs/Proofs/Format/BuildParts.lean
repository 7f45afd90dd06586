import BindingStubs.Format.Build
import BindingStubs.Proofs.Source.Block
import BindingStubs.Proofs.Source.Pieces
import BindingStubs.Proofs.Text.Search

set_option autoImplicit false

/-! # Parts of build formats -/

namespace BindingStubs.Format.Build

open List Source

structure FormatUnit where
  name : String
  documented : String
  listed : (name, documented) ∈ documentedUnits

def FormatUnit.type (u : FormatUnit) : String := unitType u.documented

theorem FormatUnit.mem_buildUnits (u : FormatUnit) : (u.name, u.type) ∈ buildUnits :=
  mem_map_of_mem u.listed

def FormatUnit.int : FormatUnit := ⟨"i", "int", by decide⟩

def FormatUnit.text : FormatUnit := ⟨"s#", "str or None", by decide⟩

def isUnitChar (c : Char) : Bool := c.isAlpha || c == '#' || c == '&'

def isUnitName : List Char → Bool
  | [c] => c.isAlpha
  | [c, d] => c.isAlpha && (d == '#' || d == '&')
  | _ => false

theorem isUnitName_of_mem {entry : String × String} (h : entry ∈ buildUnits) :
    isUnitName entry.1.toList = true := by
  have hall : ∀ entry ∈ buildUnits, isUnitName entry.1.toList = true := by decide
  exact hall entry h

theorem FormatUnit.isUnitName (u : FormatUnit) : isUnitName u.name.toList = true :=
  isUnitName_of_mem u.mem_buildUnits

theorem FormatUnit.buildUnit?_name (u : FormatUnit) : buildUnit? u.name.toList = some u.type := by
  have hall : ∀ entry ∈ buildUnits, buildUnit? entry.1.toList = some entry.2 := by decide
  exact hall (u.name, u.type) u.mem_buildUnits

theorem FormatUnit.isUnitChar_of_mem (u : FormatUnit) {c : Char} (h : c ∈ u.name.toList) :
    isUnitChar c = true := by
  have hall : ∀ entry ∈ buildUnits, entry.1.toList.all isUnitChar = true := by decide
  exact all_eq_true.1 (hall (u.name, u.type) u.mem_buildUnits) c h

def IsUnmarked (rest : List Char) : Prop := ∀ c ∈ rest.head?, c ≠ '#' ∧ c ≠ '&'

theorem buildUnit?_pair {c d : Char} (h : d ≠ '#' ∧ d ≠ '&') : buildUnit? [c, d] = none := by
  rw [buildUnit?, Option.map_eq_none_iff, find?_eq_none]
  intro entry hentry heq
  have hname := isUnitName_of_mem hentry
  rw [beq_iff_eq.1 heq] at hname
  simp [isUnitName, h] at hname

theorem leadingUnit?_name (u : FormatUnit) {rest : List Char} (hrest : IsUnmarked rest) :
    leadingUnit? (u.name.toList ++ rest) = some (u.type, u.name.toList.length) := by
  have hname := u.isUnitName
  have hfound := u.buildUnit?_name
  rw [leadingUnit?]
  match hlist : u.name.toList with
  | [] => simp [hlist, isUnitName] at hname
  | [c] =>
    rw [hlist] at hfound
    cases rest with
    | nil => simp [hfound]
    | cons d rest => simp [buildUnit?_pair (hrest d rfl), hfound]
  | [c, d] =>
    rw [hlist] at hfound
    simp [hfound]
  | _ :: _ :: _ :: _ => simp [hlist, isUnitName] at hname

inductive Bracket where
  | round
  | square
  | curly
  deriving DecidableEq

namespace Bracket

def opening : Bracket → Char
  | round => '('
  | square => '['
  | curly => '\x7b'

def closing : Bracket → Char
  | round => ')'
  | square => ']'
  | curly => '\x7d'

theorem closerOf_opening (b : Bracket) : closerOf b.opening = some b.closing := by
  cases b <;> rfl

theorem opening_ne_closing (b b' : Bracket) : b.opening ≠ b'.closing := by
  cases b <;> cases b' <;> decide

theorem opening_inj {b b' : Bracket} : b.opening = b'.opening ↔ b = b' := by
  cases b <;> cases b' <;> decide

theorem closing_inj {b b' : Bracket} : b.closing = b'.closing ↔ b = b' := by
  cases b <;> cases b' <;> decide

end Bracket

inductive Part where
  | unit (u : FormatUnit)
  | comma
  | colon
  | group (b : Bracket) (inside : List Part)

mutual

def Part.text : Part → List Char
  | .unit u => u.name.toList
  | .comma => [',']
  | .colon => [':']
  | .group b inside => b.opening :: (textOf inside ++ [b.closing])

def textOf : List Part → List Char
  | [] => []
  | p :: parts => p.text ++ textOf parts

end

mutual

@[elab_as_elim]
theorem Part.ind {motive : Part → Prop} (unit : ∀ u, motive (.unit u)) (comma : motive .comma)
    (colon : motive .colon)
    (group : ∀ b inside, (∀ p ∈ inside, motive p) → motive (.group b inside)) :
    ∀ p, motive p
  | .unit u => unit u
  | .comma => comma
  | .colon => colon
  | .group b inside => group b inside (Part.forall_mem_ind unit comma colon group inside)

theorem Part.forall_mem_ind {motive : Part → Prop} (unit : ∀ u, motive (.unit u))
    (comma : motive .comma) (colon : motive .colon)
    (group : ∀ b inside, (∀ p ∈ inside, motive p) → motive (.group b inside)) :
    ∀ parts : List Part, ∀ p ∈ parts, motive p
  | [] => forall_mem_nil _
  | p :: parts => forall_mem_cons.2 ⟨Part.ind unit comma colon group p,
      Part.forall_mem_ind unit comma colon group parts⟩

end

theorem textOf_of_forall {P : List Char → Prop} (hnil : P [])
    (happend : ∀ {cs ds}, P cs → P ds → P (cs ++ ds)) {parts : List Part}
    (h : ∀ p ∈ parts, P p.text) : P (textOf parts) := by
  induction parts with
  | nil => exact hnil
  | cons p parts ih =>
    rw [forall_mem_cons] at h
    exact happend h.1 (ih h.2)

theorem textOf_append (parts more : List Part) :
    textOf (parts ++ more) = textOf parts ++ textOf more := by
  induction parts with
  | nil => rfl
  | cons p parts ih => rw [cons_append, textOf, textOf, ih, append_assoc]

namespace Part

def isComma : Part → Bool
  | comma => true
  | _ => false

def isColon : Part → Bool
  | colon => true
  | _ => false

end Part

def isSpacing (c : Char) : Bool := c == ' ' || c == '\n' || c == '\t'

def IsSolid (cs : List Char) : Prop := ∀ c ∈ cs, isSpacing c = false

theorem IsSolid.append {cs ds : List Char} (hcs : IsSolid cs) (hds : IsSolid ds) :
    IsSolid (cs ++ ds) :=
  forall_mem_append.2 ⟨hcs, hds⟩

theorem Part.isSolid_text (p : Part) : IsSolid p.text := by
  induction p using Part.ind with
  | unit u =>
    intro c hc
    have hunit := u.isUnitChar_of_mem hc
    cases hspacing : isSpacing c with
    | false => rfl
    | true =>
      simp only [isSpacing, Bool.or_eq_true, beq_iff_eq] at hspacing
      rcases hspacing with (rfl | rfl) | rfl <;> cases hunit
  | comma => simp [IsSolid, Part.text, isSpacing]
  | colon => simp [IsSolid, Part.text, isSpacing]
  | group b inside ih =>
    have hopening : IsSolid [b.opening] := by cases b <;> simp [IsSolid, isSpacing, Bracket.opening]
    have hclosing : IsSolid [b.closing] := by cases b <;> simp [IsSolid, isSpacing, Bracket.closing]
    have hinside : IsSolid (textOf inside) := textOf_of_forall (by simp [IsSolid]) .append ih
    exact hopening.append (hinside.append hclosing)

theorem isSolid_textOf (parts : List Part) : IsSolid (textOf parts) :=
  textOf_of_forall (by simp [IsSolid]) .append fun p _ => p.isSolid_text

theorem Part.exists_text_eq_cons (p : Part) :
    ∃ c cs, p.text = c :: cs ∧ c ≠ '#' ∧ c ≠ '&' := by
  cases p with
  | unit u =>
    have hname := u.isUnitName
    rw [Part.text]
    match u.name.toList, hname with
    | [c], h => exact ⟨c, [], rfl, (by rintro rfl; cases h), (by rintro rfl; cases h)⟩
    | [c, d], h => exact ⟨c, [d], rfl, (by rintro rfl; cases h), (by rintro rfl; cases h)⟩
  | comma => exact ⟨',', [], rfl, by decide, by decide⟩
  | colon => exact ⟨':', [], rfl, by decide, by decide⟩
  | group b inside => exact ⟨b.opening, _, rfl, by cases b <;> decide, by cases b <;> decide⟩

theorem isUnmarked_textOf (parts : List Part) {rest : List Char} (h : IsUnmarked rest) :
    IsUnmarked (textOf parts ++ rest) := by
  cases parts with
  | nil => exact h
  | cons p parts =>
    obtain ⟨c, cs, hp, hc⟩ := p.exists_text_eq_cons
    rintro d hd
    rw [textOf, hp] at hd
    obtain rfl := Option.some.inj hd
    exact hc

/-- A text that a search for the end of a group goes through, if the group is open. -/
def Passes (b : Bracket) (depth : Int) (cs : List Char) : Prop :=
  ∀ start last rest, ∃ last',
    blockEnd b.opening b.closing depth last (positioned start cs ++ rest) =
      blockEnd b.opening b.closing depth last' rest

theorem passes_nil (b : Bracket) (depth : Int) : Passes b depth [] :=
  fun _ last _ => ⟨last, rfl⟩

theorem Passes.append {b : Bracket} {depth : Int} {cs ds : List Char} (hcs : Passes b depth cs)
    (hds : Passes b depth ds) : Passes b depth (cs ++ ds) := by
  intro start last rest
  rw [positioned_append, append_assoc]
  obtain ⟨last, h⟩ := hcs start last (positioned (start + cs.length) ds ++ rest)
  rw [h]
  exact hds _ _ _

theorem passes_singleton {b : Bracket} {c : Char} (hopening : c ≠ b.opening)
    (hclosing : c ≠ b.closing) (depth : Int) : Passes b depth [c] := by
  intro start last rest
  refine ⟨start, ?_⟩
  rw [positioned, cons_append, blockEnd_cons _ _ _ _ (b.opening_ne_closing b),
    if_neg (fun h => hclosing h.1), depthAfter, if_neg hopening, if_neg hclosing]
  rfl

theorem passes_of_forall {b : Bracket} {cs : List Char}
    (h : ∀ c ∈ cs, c ≠ b.opening ∧ c ≠ b.closing) (depth : Int) : Passes b depth cs := by
  induction cs with
  | nil => exact passes_nil b depth
  | cons c cs ih =>
    rw [forall_mem_cons] at h
    exact (passes_singleton h.1.1 h.1.2 depth).append (ih h.2)

theorem Passes.group {b : Bracket} {depth : Int} {cs : List Char} (hdepth : 1 ≤ depth)
    (h : Passes b (depth + 1) cs) : Passes b depth (b.opening :: (cs ++ [b.closing])) := by
  intro start last rest
  have hne := b.opening_ne_closing b
  obtain ⟨last', hpass⟩ := h (start + 1) start
    (positioned (start + 1 + cs.length) [b.closing] ++ rest)
  refine ⟨start + 1 + cs.length, ?_⟩
  rw [positioned, cons_append, blockEnd_cons _ _ _ _ hne,
    if_neg (fun h => hne h.1), depthAfter, if_pos rfl, positioned_append,
    append_assoc, hpass, positioned, cons_append, blockEnd_cons _ _ _ _ hne,
    if_neg (fun h => by omega), depthAfter, if_neg hne.symm, if_pos rfl,
    Int.add_sub_cancel]
  rfl

theorem ne_bracket_of_isUnitChar {c : Char} (h : isUnitChar c = true) (b : Bracket) :
    c ≠ b.opening ∧ c ≠ b.closing := by
  constructor <;> rintro rfl <;> cases b <;> cases h

theorem Part.passes (b : Bracket) (p : Part) {depth : Int} (hdepth : 1 ≤ depth) :
    Passes b depth p.text := by
  induction p using Part.ind generalizing depth with
  | unit u =>
    exact passes_of_forall (fun c hc => ne_bracket_of_isUnitChar (u.isUnitChar_of_mem hc) b) depth
  | comma => exact passes_singleton (by cases b <;> decide) (by cases b <;> decide) depth
  | colon => exact passes_singleton (by cases b <;> decide) (by cases b <;> decide) depth
  | group b' inside ih =>
    by_cases hb : b' = b
    · subst hb
      have hinside : Passes b' (depth + 1) (textOf inside) :=
        textOf_of_forall (passes_nil b' _) .append fun p hp => ih p hp (by omega)
      exact hinside.group hdepth
    · have hopening : Passes b depth [b'.opening] :=
        passes_singleton (fun h => hb (Bracket.opening_inj.1 h)) (b'.opening_ne_closing b) depth
      have hclosing : Passes b depth [b'.closing] :=
        passes_singleton (b.opening_ne_closing b').symm (fun h => hb (Bracket.closing_inj.1 h)) depth
      have hinside : Passes b depth (textOf inside) :=
        textOf_of_forall (passes_nil b _) .append fun p hp => ih p hp hdepth
      exact hopening.append (hinside.append hclosing)

theorem passes_textOf (b : Bracket) (parts : List Part) {depth : Int} (hdepth : 1 ≤ depth) :
    Passes b depth (textOf parts) :=
  textOf_of_forall (passes_nil b _) .append fun p _ => p.passes b hdepth

theorem firstBranches_of_isSolid {b : Source.Branches} (hinner : b.inner = true) (start : Nat)
    {cs : List Char} (h : IsSolid cs) :
    firstBranches b start cs = positioned start cs := by
  induction cs generalizing b start with
  | nil => rfl
  | cons c cs ih =>
    rw [IsSolid, forall_mem_cons] at h
    have hsee : (b.see c).inner = true := by
      rw [Source.Branches.see, ← isSpacing, h.1]
      exact hinner
    rw [firstBranches, positioned]
    simp only [hsee, if_true, ih hsee (start + 1) h.2]

theorem charactersSeen_of_isSolid {text : List Char} (h : IsSolid text) :
    charactersSeen text 0 = positioned 0 text := by
  rw [charactersSeen, drop_zero, firstBranches_of_isSolid rfl 0 h]
  exact ite_self _

theorem blockEnd_group (b : Bracket) (inside : List Part) (rest : List Char) :
    blockEnd b.opening b.closing 0 0
        (positioned 0 ((Part.group b inside).text ++ rest)) = (textOf inside).length + 1 := by
  have hne := b.opening_ne_closing b
  obtain ⟨last, hpass⟩ := passes_textOf b inside (Int.le_refl 1) 1 0
    (positioned (1 + (textOf inside).length) (b.closing :: rest))
  rw [← positioned_append] at hpass
  rw [Part.text, cons_append, append_assoc, singleton_append, positioned,
    blockEnd_cons _ _ _ _ hne, if_neg (fun h => hne h.1), depthAfter, if_pos rfl]
  refine hpass.trans ?_
  rw [positioned, blockEnd_cons _ _ _ _ hne, if_pos ⟨rfl, rfl⟩]
  exact Nat.add_comm _ _

theorem length_text_group (b : Bracket) (inside : List Part) :
    (Part.group b inside).text.length = (textOf inside).length + 2 := by
  simp [Part.text]

theorem groupInside_group (b : Bracket) (inside : List Part) {rest : List Char}
    (hrest : IsSolid rest) :
    groupInside ((Part.group b inside).text ++ rest) b.opening b.closing = textOf inside := by
  have hblock : blockFrom ((Part.group b inside).text ++ rest) 0 b.opening b.closing =
      (Part.group b inside).text := by
    rw [blockFrom, charactersSeen_of_isSolid ((Part.isSolid_text _).append hrest),
      blockEnd_group, Chars.slice, ← length_text_group b, take_left, drop_zero]
  rw [groupInside, hblock, Part.text, Chars.dropStart, Chars.dropEnd]
  simp

def allOpenings : List Char := "([\x7b".toList

def allClosings : List Char := ")]\x7d".toList

theorem comma_isPlain : Source.IsPlain allOpenings allClosings ',' := by decide

/-- A text that goes into the current piece as a whole, with so many brackets open. -/
def Kept (depth : Nat) (cs : List Char) : Prop :=
  ∀ piece rest, piecesLoop allOpenings allClosings (some ',') { depth := depth } piece
      (cs ++ rest) =
    piecesLoop allOpenings allClosings (some ',') { depth := depth } (cs.reverse ++ piece) rest

theorem Kept.append {depth : Nat} {cs ds : List Char} (hcs : Kept depth cs) (hds : Kept depth ds) :
    Kept depth (cs ++ ds) := by
  intro piece rest
  rw [append_assoc, hcs, hds, reverse_append, append_assoc]

theorem kept_nil (depth : Nat) : Kept depth [] := fun _ _ => rfl

theorem kept_singleton {c : Char} {depth : Nat} (hescape : c ≠ '\\') (hquote : c ≠ '"')
    (hopening : c ∉ allOpenings) (hclosing : c ∉ allClosings) (hcomma : c = ',' → depth ≠ 0) :
    Kept depth [c] := by
  intro piece rest
  have hstay : ¬ (c = ',' ∧ ({ depth := depth } : Source.Inside) = {}) := by
    rintro ⟨hc, hdepth⟩
    exact hcomma hc (congrArg Source.Inside.depth hdepth)
  rw [singleton_append, piecesLoop_cons comma_isPlain, if_neg hstay, Source.Inside.next?]
  simp [hescape, hquote, hopening, hclosing]

theorem Kept.group {depth : Nat} {cs : List Char} (b : Bracket) (h : Kept (depth + 1) cs) :
    Kept depth (b.opening :: (cs ++ [b.closing])) := by
  intro piece rest
  have hopen : Source.Inside.next? allOpenings allClosings { depth := depth } b.opening =
      some { depth := depth + 1 } := by
    cases b <;> simp [Source.Inside.next?, Bracket.opening, allOpenings]
  have hclose : Source.Inside.next? allOpenings allClosings { depth := depth + 1 } b.closing =
      some { depth := depth } := by
    cases b <;> simp [Source.Inside.next?, Bracket.closing, allOpenings, allClosings]
  have hstay : ∀ {c : Char} {inside : Source.Inside}, c ≠ ',' → ¬ (c = ',' ∧ inside = {}) :=
    fun hc h => hc h.1
  rw [cons_append, piecesLoop_cons comma_isPlain,
    if_neg (hstay (by cases b <;> decide)), hopen]
  dsimp only
  rw [append_assoc, h, singleton_append, piecesLoop_cons comma_isPlain,
    if_neg (hstay (by cases b <;> decide)), hclose]
  simp

theorem kept_of_isUnitChar {cs : List Char} (h : ∀ c ∈ cs, isUnitChar c = true) (depth : Nat) :
    Kept depth cs := by
  induction cs with
  | nil => exact kept_nil depth
  | cons c cs ih =>
    rw [forall_mem_cons] at h
    have hother : ∀ {d : Char}, isUnitChar d = false → c ≠ d := by
      rintro d hd rfl
      exact absurd h.1 (by rw [hd]; decide)
    have hopening : c ∉ allOpenings := by
      simp only [allOpenings, mem_cons, not_mem_nil, or_false, not_or, String.reduceToList]
      exact ⟨hother rfl, hother rfl, hother rfl⟩
    have hclosing : c ∉ allClosings := by
      simp only [allClosings, mem_cons, not_mem_nil, or_false, not_or, String.reduceToList]
      exact ⟨hother rfl, hother rfl, hother rfl⟩
    have hc : Kept depth [c] :=
      kept_singleton (hother rfl) (hother rfl) hopening hclosing fun hcomma =>
        absurd hcomma (hother rfl)
    exact hc.append (ih h.2)

theorem Part.kept (p : Part) {depth : Nat} (h : p.isComma = true → depth ≠ 0) :
    Kept depth p.text := by
  induction p using Part.ind generalizing depth with
  | unit u => exact kept_of_isUnitChar (fun c hc => u.isUnitChar_of_mem hc) depth
  | comma => exact kept_singleton (by decide) (by decide) (by decide) (by decide) fun _ => h rfl
  | colon => exact kept_singleton (by decide) (by decide) (by decide) (by decide) (by simp)
  | group b inside ih =>
    have hinside : Kept (depth + 1) (textOf inside) :=
      textOf_of_forall (kept_nil _) .append fun p hp => ih p hp fun _ => Nat.succ_ne_zero depth
    exact hinside.group b

theorem piecesLoop_textOf (parts : List Part) (piece : List Char) :
    piecesLoop allOpenings allClosings (some ',') {} piece (textOf parts) =
      ((parts.splitOnP Part.isComma).map textOf).modifyHead (piece.reverse ++ ·) := by
  induction parts generalizing piece with
  | nil => simp [textOf, piecesLoop]
  | cons p parts ih =>
    rw [textOf, splitOnP_cons_eq_if_modifyHead]
    split
    · next hp =>
      cases p <;> cases hp
      rw [Part.text, singleton_append, piecesLoop_separator comma_isPlain, ih]
      cases (parts.splitOnP Part.isComma) <;> simp [textOf]
    · next hp =>
      rw [p.kept fun h => absurd h hp, ih]
      cases (parts.splitOnP Part.isComma) <;> simp [textOf]

theorem groupPieces_textOf (parts : List Part) :
    groupPieces (textOf parts) = (parts.splitOnP Part.isComma).map textOf := by
  refine (piecesLoop_textOf parts []).trans ?_
  cases parts.splitOnP Part.isComma <;> simp

end BindingStubs.Format.Build
