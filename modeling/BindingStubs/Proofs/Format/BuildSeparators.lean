import BindingStubs.Proofs.Format.BuildReading

set_option autoImplicit false

/-! # Separators in build formats -/

namespace BindingStubs.Format.Build

open List

def Part.isMark (p : Part) : Bool := p.isComma || p.isColon

def Sign.isMark (s : Sign) : Bool := s.isComma || s.isColon

def items (signs : List Sign) : Option (List Built) := (signs.filter (!·.isMark)).mapM Sign.value?

def pairs : List Built → Option (List (Built × Built))
  | [] => some []
  | [_] => none
  | key :: value :: vs => (pairs vs).map ((key, value) :: ·)

def Bracket.build (b : Bracket) (signs : List Sign) : Option Built :=
  match b with
  | .round => (items signs).map .tuple
  | .square => (items signs).map .list
  | .curly => ((items signs).bind pairs).map .dict

/-- The value that parts stand for, whatever the separators between them. -/
def builtOf (parts : List Part) : Option Built := (items (signsOf Bracket.build parts)).map gathered

mutual

def Part.bare : Part → Part
  | .unit u => .unit u
  | .comma => .comma
  | .colon => .colon
  | .group b inside => .group b (bareOf inside)

/-- The parts without commas and colons, also inside of groups. -/
def bareOf : List Part → List Part
  | [] => []
  | p :: parts => if p.isMark then bareOf parts else p.bare :: bareOf parts

end

theorem bareOf_eq (parts : List Part) :
    bareOf parts = (parts.filter (!·.isMark)).map Part.bare := by
  induction parts with
  | nil => rfl
  | cons p parts ih => cases hp : p.isMark <;> simp [bareOf, hp, ih]

theorem isMark_bare (p : Part) : p.bare.isMark = p.isMark := by
  cases p <;> rfl

def Part.read? (p : Part) : Option Built := (p.sign Bracket.read).value?

def Part.build? (p : Part) : Option Built := (p.sign Bracket.build).value?

theorem mapM_signsOf (read : Bracket → List Sign → Option Built) (parts : List Part) :
    (signsOf read parts).mapM Sign.value? = parts.mapM fun p => (p.sign read).value? := by
  rw [signsOf_eq]
  exact mapM_map_congr fun _ _ => rfl

theorem whole_signsOf (parts : List Part) :
    whole (signsOf Bracket.read parts) = (parts.mapM Part.read?).map gathered := by
  rw [whole, mapM_signsOf]
  rfl

theorem items_signsOf (parts : List Part) :
    items (signsOf Bracket.build parts) = (parts.filter (!·.isMark)).mapM Part.build? := by
  have hmark : ∀ p : Part, (p.sign Bracket.build).isMark = p.isMark := by
    intro p
    rw [Sign.isMark, isComma_sign, isColon_sign, Part.isMark]
  have hfilter : (signsOf Bracket.build parts).filter (!·.isMark) =
      signsOf Bracket.build (parts.filter (!·.isMark)) := by
    simp only [signsOf_eq, filter_map, Function.comp_def, hmark]
  rw [items, hfilter, mapM_signsOf]
  rfl

variable {parts : List Part}

theorem items_of_isMark (hmark : ∀ p ∈ parts, p.isMark = false) :
    items (signsOf Bracket.build parts) = parts.mapM Part.build? := by
  have hall : ∀ p ∈ parts, (!p.isMark) = true := fun p hp => by rw [hmark p hp]; rfl
  rw [items_signsOf, filter_eq_self.2 hall]

theorem items_bareOf (h : ∀ p ∈ parts, p.bare.build? = p.build?) :
    items (signsOf Bracket.build (bareOf parts)) = items (signsOf Bracket.build parts) := by
  have hfilter : (bareOf parts).filter (!·.isMark) = (parts.filter (!·.isMark)).map Part.bare := by
    simp [bareOf_eq, filter_map, Function.comp_def, isMark_bare]
  rw [items_signsOf, items_signsOf, hfilter]
  exact mapM_map_congr fun p hp => h p (mem_of_mem_filter hp)

theorem build?_bare (p : Part) : p.bare.build? = p.build? := by
  induction p using Part.ind with
  | unit u => rfl
  | comma => rfl
  | colon => rfl
  | group b inside ih =>
    have hitems := items_bareOf ih
    cases b <;> simp [Part.bare, Part.build?, Part.sign, Sign.value?, Bracket.build, hitems]

theorem builtOf_bareOf (parts : List Part) : builtOf (bareOf parts) = builtOf parts := by
  rw [builtOf, items_bareOf fun p _ => build?_bare p, builtOf]

def isItem : List Part → Bool
  | [p] => !p.isMark
  | _ => false

def isEntry : List Part → Bool
  | [key, .colon, value] => !key.isMark && !value.isMark && !key.text.contains ':'
  | _ => false

def isTupleGroup : List Part → Bool
  | [.group .round _] => true
  | _ => false

/-- Commas between all items, and colons in a dictionary. In a tuple the commas may be left out,
unless all it holds is a tuple. -/
def Bracket.separates (b : Bracket) (inside : List Part) : Bool :=
  let pieces := inside.splitOnP Part.isComma
  match b with
  | .round => inside.all (!·.isMark) && !isTupleGroup inside ||
      decide (2 ≤ pieces.length) && pieces.all isItem
  | .square => pieces.all isItem
  | .curly => pieces.all isEntry

mutual

def Part.separated : Part → Bool
  | .unit _ => true
  | .comma => true
  | .colon => true
  | .group b inside => b.separates inside && allSeparated inside

def allSeparated : List Part → Bool
  | [] => true
  | p :: parts => p.separated && allSeparated parts

end

def wellSeparated (parts : List Part) : Bool := parts.all (!·.isMark) && allSeparated parts

theorem allSeparated_iff :
    allSeparated parts = true ↔ ∀ p ∈ parts, p.isMark = false → p.separated = true := by
  induction parts with
  | nil => simp [allSeparated]
  | cons p parts ih =>
    have hmark : p.isMark = true → p.separated = true := by
      cases p with
      | group b inside => rintro ⟨⟩
      | _ => exact fun _ => rfl
    rw [allSeparated, Bool.and_eq_true, forall_mem_cons, ih]
    cases hp : p.isMark <;> simp_all

def Part.Agrees (p : Part) : Prop := ∃ v, p.read? = some v ∧ p.build? = some v

variable {p : Part}

theorem isMark_of_read? {v : Built} (h : p.read? = some v) : p.isMark = false := by
  cases p with
  | comma => cases h
  | colon => cases h
  | _ => rfl

theorem build?_ne_nothing (p : Part) : p.build? ≠ some .nothing := by
  intro h
  cases p with
  | group b inside => cases b <;> obtain ⟨_, -, h⟩ := Option.map_eq_some_iff.1 h <;> cases h
  | _ => cases h

variable {vs : List Built}

theorem length_of_mapM {α β : Type} {f : α → Option β} {xs : List α} {ys : List β}
    (h : xs.mapM f = some ys) : ys.length = xs.length := by
  simpa using (congrArg length (mapM_eq_some_iff.1 h)).symm

theorem exists_of_mem_mapM {α β : Type} {f : α → Option β} {xs : List α} {ys : List β}
    (h : xs.mapM f = some ys) :
    (∀ x ∈ xs, ∃ y ∈ ys, f x = some y) ∧ ∀ y ∈ ys, ∃ x ∈ xs, f x = some y := by
  have hsame := mapM_eq_some_iff.1 h
  refine ⟨fun x hx => ?_, fun y hy => mem_map.1 (hsame ▸ mem_map_of_mem hy)⟩
  obtain ⟨y, hy, heq⟩ := mem_map.1 (hsame ▸ mem_map_of_mem (f := f) hx)
  exact ⟨y, hy, heq.symm⟩

theorem agrees_of_mapM (hread : parts.mapM Part.read? = some vs)
    (hbuild : parts.mapM Part.build? = some vs) : ∀ p ∈ parts, p.Agrees := by
  intro p hp
  obtain ⟨v, -, hv⟩ := (exists_of_mem_mapM hread).1 p hp
  have hsame := (mapM_eq_some_iff.1 hread).trans (mapM_eq_some_iff.1 hbuild).symm
  exact ⟨v, hv, (map_inj_left.1 hsame p hp).symm.trans hv⟩

theorem exists_mapM_of_agrees (h : ∀ p ∈ parts, p.Agrees) :
    ∃ vs, parts.mapM Part.read? = some vs ∧ parts.mapM Part.build? = some vs := by
  induction parts with
  | nil => exact ⟨[], rfl, rfl⟩
  | cons p parts ih =>
    rw [forall_mem_cons] at h
    obtain ⟨v, hread, hbuild⟩ := h.1
    obtain ⟨vs, hreads, hbuilds⟩ := ih h.2
    exact ⟨v :: vs, mapM_cons_eq_some.2 ⟨v, vs, hread, hreads, rfl⟩,
      mapM_cons_eq_some.2 ⟨v, vs, hbuild, hbuilds, rfl⟩⟩

theorem isMark_of_whole {v : Built} (h : whole (signsOf Bracket.read parts) = some v) :
    ∀ p ∈ parts, p.isMark = false := by
  rw [whole_signsOf] at h
  obtain ⟨vs, hvs, -⟩ := Option.map_eq_some_iff.1 h
  intro p hp
  obtain ⟨w, -, hw⟩ := (exists_of_mem_mapM hvs).1 p hp
  exact isMark_of_read? hw

theorem length_le_length_flatten {α : Type} {pieces : List (List α)}
    (hne : ∀ piece ∈ pieces, piece ≠ []) : pieces.length ≤ pieces.flatten.length := by
  induction pieces with
  | nil => simp
  | cons piece pieces ih =>
    rw [forall_mem_cons] at hne
    have hpiece := length_pos_of_ne_nil hne.1
    have hpieces := ih hne.2
    rw [flatten_cons, length_append, length_cons]
    omega

theorem exists_singletons {α : Type} {pieces : List (List α)} (hne : ∀ piece ∈ pieces, piece ≠ [])
    (hlength : pieces.flatten.length = pieces.length) : ∃ xs : List α, pieces = xs.map ([·]) := by
  induction pieces with
  | nil => exact ⟨[], rfl⟩
  | cons piece pieces ih =>
    rw [forall_mem_cons] at hne
    have hpiece := length_pos_of_ne_nil hne.1
    have hpieces := length_le_length_flatten hne.2
    rw [flatten_cons, length_append, length_cons] at hlength
    obtain ⟨x, rfl⟩ := length_eq_one_iff.1 (by omega : piece.length = 1)
    obtain ⟨xs, rfl⟩ := ih hne.2 (by omega)
    exact ⟨x :: xs, rfl⟩

theorem flatten_singletons (parts : List Part) : (parts.map ([·])).flatten = parts := by
  rw [← flatMap_def, flatMap_singleton']

theorem mapM_whole_singletons (parts : List Part) :
    ((parts.map ([·])).map (signsOf Bracket.read)).mapM whole = parts.mapM Part.read? := by
  rw [map_map]
  refine mapM_map_congr fun p _ => ?_
  rw [Function.comp_apply, whole_signsOf, mapM_cons]
  cases p.read? <;> rfl

theorem exists_parts_of_mapM {pieces : List (List Part)}
    (hread : (pieces.map (signsOf Bracket.read)).mapM whole = some vs)
    (hbuild : pieces.flatten.mapM Part.build? = some vs) :
    ∃ parts : List Part, pieces = parts.map ([·]) ∧ ∀ p ∈ parts, p.Agrees := by
  have hne : ∀ piece ∈ pieces, piece ≠ [] := by
    rintro piece hpiece rfl
    obtain ⟨v, hv, hnothing⟩ := (exists_of_mem_mapM hread).1 _ (mem_map_of_mem hpiece)
    obtain rfl : Built.nothing = v := Option.some.inj hnothing
    obtain ⟨p, -, hp⟩ := (exists_of_mem_mapM hbuild).2 _ hv
    exact build?_ne_nothing p hp
  have hlength : pieces.flatten.length = pieces.length := by
    rw [← length_of_mapM hbuild, length_of_mapM hread, length_map]
  obtain ⟨parts, rfl⟩ := exists_singletons hne hlength
  rw [mapM_whole_singletons] at hread
  rw [flatten_singletons] at hbuild
  exact ⟨parts, rfl, agrees_of_mapM hread hbuild⟩

theorem items_pieces (inside : List Part) :
    items (signsOf Bracket.build inside) =
      ((inside.splitOnP Part.isComma).flatten.filter (!·.isColon)).mapM Part.build? := by
  have hmark : ∀ p : Part, (!p.isMark) = (!p.isColon && !p.isComma) := by
    intro p
    rw [Part.isMark, Bool.not_or, Bool.and_comm]
  rw [items_signsOf, flatten_splitOnP, filter_filter]
  simp only [hmark]

theorem isColon_of_isMark (h : p.isMark = false) : (!p.isColon) = true := by
  rw [(Bool.or_eq_false_iff.1 h).2]
  rfl

theorem isComma_of_isMark (h : p.isMark = false) : p.isComma = false :=
  (Bool.or_eq_false_iff.1 h).1

variable {inside : List Part}

theorem mem_flatten_pieces (hp : p ∈ inside) (hmark : p.isMark = false) :
    p ∈ (inside.splitOnP Part.isComma).flatten := by
  rw [flatten_splitOnP, mem_filter, isComma_of_isMark hmark]
  exact ⟨hp, rfl⟩

theorem exists_map_eq {α β : Type} {f : α → β} {P : α → Prop} {ys : List β}
    (h : ∀ y ∈ ys, ∃ x, y = f x ∧ P x) : ∃ xs : List α, ys = xs.map f ∧ ∀ x ∈ xs, P x := by
  induction ys with
  | nil => exact ⟨[], rfl, forall_mem_nil _⟩
  | cons y ys ih =>
    rw [forall_mem_cons] at h
    obtain ⟨x, rfl, hx⟩ := h.1
    obtain ⟨xs, rfl, hxs⟩ := ih h.2
    exact ⟨x :: xs, rfl, forall_mem_cons.2 ⟨hx, hxs⟩⟩

theorem exists_of_isItem {piece : List Part} (h : isItem piece = true) :
    ∃ p, piece = [p] ∧ p.isMark = false := by
  match piece, h with
  | [p], h => exact ⟨p, rfl, by simpa [isItem] using h⟩

theorem mem_of_mem_pieces {inside parts : List Part}
    (h : inside.splitOnP Part.isComma = parts.map ([·])) :
    ∀ p ∈ parts, p ∈ inside := by
  intro p hp
  have hpiece : [p] ∈ inside.splitOnP Part.isComma := by
    rw [h]
    exact mem_map_of_mem hp
  exact mem_of_mem_splitOnP hpiece (mem_singleton_self p)

theorem items_agree_iff (inside : List Part) :
    (∃ vs, ((inside.splitOnP Part.isComma).map (signsOf Bracket.read)).mapM whole = some vs ∧
        items (signsOf Bracket.build inside) = some vs) ↔
      (inside.splitOnP Part.isComma).all isItem = true ∧
        ∀ p ∈ inside, p.isMark = false → p.Agrees := by
  rw [items_pieces, all_eq_true]
  constructor
  · rintro ⟨vs, hread, hbuild⟩
    have hcolon : ∀ p ∈ (inside.splitOnP Part.isComma).flatten, (!p.isColon) = true := by
      intro p hp
      obtain ⟨piece, hpiece, hp⟩ := mem_flatten.1 hp
      obtain ⟨v, -, hv⟩ := (exists_of_mem_mapM hread).1 _ (mem_map_of_mem hpiece)
      exact isColon_of_isMark (isMark_of_whole hv p hp)
    rw [filter_eq_self.2 hcolon] at hbuild
    obtain ⟨parts, hparts, hagrees⟩ := exists_parts_of_mapM hread hbuild
    constructor
    · rw [hparts, forall_mem_map]
      intro p hp
      obtain ⟨v, hv, -⟩ := hagrees p hp
      rw [isItem, isMark_of_read? hv]
      rfl
    · intro p hp hmark
      have hmem := mem_flatten_pieces hp hmark
      rw [hparts, flatten_singletons] at hmem
      exact hagrees p hmem
  · rintro ⟨hitems, hagrees⟩
    obtain ⟨parts, hparts, hmark⟩ := exists_map_eq fun piece hpiece =>
      exists_of_isItem (hitems piece hpiece)
    obtain ⟨vs, hread, hbuild⟩ := exists_mapM_of_agrees fun p hp =>
      hagrees p (mem_of_mem_pieces hparts p hp) (hmark p hp)
    refine ⟨vs, ?_, ?_⟩
    · rw [hparts, mapM_whole_singletons, hread]
    · rw [hparts, flatten_singletons,
        filter_eq_self.2 fun p hp => isColon_of_isMark (hmark p hp), hbuild]

theorem agrees_group {b : Bracket} : (Part.group b inside).Agrees ↔
    ∃ v, b.read (signsOf Bracket.read inside) = some v ∧
      b.build (signsOf Bracket.build inside) = some v :=
  Iff.rfl

theorem exists_map_iff {α β : Type} {x y : Option α} {f g : α → β}
    (h : ∀ a, x = some a → ∀ b, g b = f a ↔ b = a) :
    (∃ v, x.map f = some v ∧ y.map g = some v) ↔ ∃ a, x = some a ∧ y = some a := by
  constructor
  · rintro ⟨v, hx, hy⟩
    obtain ⟨a, ha, rfl⟩ := Option.map_eq_some_iff.1 hx
    obtain ⟨b, hb, heq⟩ := Option.map_eq_some_iff.1 hy
    exact ⟨a, ha, (h a ha b).1 heq ▸ hb⟩
  · rintro ⟨a, rfl, rfl⟩
    exact ⟨f a, rfl, congrArg some ((h a rfl a).2 rfl)⟩

theorem agrees_square (inside : List Part) : (Part.group .square inside).Agrees ↔
    Bracket.square.separates inside = true ∧ ∀ p ∈ inside, p.isMark = false → p.Agrees := by
  rw [Bracket.separates, ← items_agree_iff, agrees_group, read_square, Bracket.build]
  exact exists_map_iff fun _ _ _ => by rw [Built.list.injEq]

theorem exists_tupled (vs : List Built) : ∃ xs, tupled vs = .tuple xs := by
  match vs with
  | [] => exact ⟨[], rfl⟩
  | [v] => cases v <;> exact ⟨_, rfl⟩
  | _ :: _ :: _ => exact ⟨_, rfl⟩

theorem exists_read?_round {v : Built} (h : (Part.group .round inside).read? = some v) :
    ∃ xs, v = .tuple xs := by
  change Bracket.round.read (signsOf Bracket.read inside) = some v at h
  by_cases hinside : inside = []
  · subst hinside
    exact ⟨[], (Option.some.inj h).symm⟩
  · rw [read_round _ hinside] at h
    obtain ⟨vs, -, rfl⟩ := Option.map_eq_some_iff.1 h
    exact exists_tupled vs

theorem exists_of_read?_tuple {xs : List Built} (h : p.read? = some (.tuple xs)) :
    ∃ inside, p = .group .round inside := by
  cases p with
  | group b inside =>
    cases b with
    | round => exact ⟨inside, rfl⟩
    | square => obtain ⟨_, -, h⟩ := Option.map_eq_some_iff.1 h; cases h
    | curly => obtain ⟨_, -, h⟩ := Option.map_eq_some_iff.1 h; cases h
  | unit u => cases h
  | comma => cases h
  | colon => cases h

theorem gathered_ne_nested {us : List Built} (xs : List Built)
    (h : ∀ u ∈ us, u ≠ .tuple [.tuple xs]) : gathered us ≠ .tuple [.tuple xs] := by
  match us with
  | [] => nofun
  | [u] => exact h u mem_cons_self
  | _ :: _ :: _ => nofun

theorem tupled_ne_nested (xs : List Built) (h : ∀ v ∈ vs, v ≠ .tuple [.tuple xs]) :
    tupled vs ≠ .tuple [.tuple xs] := by
  match vs with
  | [] => nofun
  | [v] =>
    have hv := h v mem_cons_self
    cases v with
    | tuple ys => exact hv
    | _ => nofun
  | _ :: _ :: _ => nofun

theorem read?_ne_nested (p : Part) (xs : List Built) : p.read? ≠ some (.tuple [.tuple xs]) := by
  induction p using Part.ind with
  | unit u => nofun
  | comma => nofun
  | colon => nofun
  | group b inside ih =>
    intro h
    obtain ⟨inside, ⟨⟩⟩ := exists_of_read?_tuple h
    change Bracket.round.read (signsOf Bracket.read inside) = _ at h
    by_cases hinside : inside = []
    · subst hinside
      cases h
    rw [read_round _ hinside] at h
    obtain ⟨vs, hvs, htupled⟩ := Option.map_eq_some_iff.1 h
    refine tupled_ne_nested xs (fun v hv hnested => ?_) htupled
    subst hnested
    obtain ⟨signs, hsigns, hwhole⟩ := (exists_of_mem_mapM hvs).2 _ hv
    obtain ⟨piece, hpiece, rfl⟩ := mem_map.1 hsigns
    rw [whole_signsOf] at hwhole
    obtain ⟨us, hus, hgathered⟩ := Option.map_eq_some_iff.1 hwhole
    refine gathered_ne_nested xs (fun u hu hnested => ?_) hgathered
    subst hnested
    obtain ⟨q, hq, hread⟩ := (exists_of_mem_mapM hus).2 _ hu
    exact ih q (mem_of_mem_splitOnP hpiece hq) hread

theorem read_one_piece (hinside : inside ≠ []) (hcomma : ∀ p ∈ inside, p.isComma = false) :
    Bracket.round.read (signsOf Bracket.read inside) =
      (inside.mapM Part.read?).map fun us => wrapped (gathered us) := by
  rw [read_round _ hinside, splitOnP_eq_singleton hcomma, map_singleton, mapM_cons,
    whole_signsOf]
  cases inside.mapM Part.read? <;> rfl

theorem wrapped_gathered {us : List Built} (hinside : inside ≠ [])
    (hus : inside.mapM Part.read? = some us) (hgroup : isTupleGroup inside = false) :
    wrapped (gathered us) = .tuple us := by
  match inside with
  | [] => exact absurd rfl hinside
  | [p] =>
    obtain ⟨u, _, hu, hnil, rfl⟩ := mapM_cons_eq_some.1 hus
    obtain rfl := Option.some.inj hnil
    cases u with
    | tuple xs =>
      obtain ⟨inner, rfl⟩ := exists_of_read?_tuple hu
      cases hgroup
    | _ => rfl
  | p :: q :: inside =>
    obtain ⟨u, _, -, hothers, rfl⟩ := mapM_cons_eq_some.1 hus
    obtain ⟨u', _, -, -, rfl⟩ := mapM_cons_eq_some.1 hothers
    rfl

/-- A tuple of just a tuple loses its outer brackets, so it is not read as what it stands for. -/
theorem isTupleGroup_of_agrees {us ws : List Built} (hus : inside.mapM Part.read? = some us)
    (hws : inside.mapM Part.build? = some ws) (heq : Built.tuple ws = wrapped (gathered us)) :
    isTupleGroup inside = false := by
  by_contra h
  rw [Bool.not_eq_false] at h
  obtain ⟨inner, rfl⟩ : ∃ inner, inside = [.group .round inner] := by
    match inside, h with
    | [.group .round inner], _ => exact ⟨inner, rfl⟩
  obtain ⟨u, _, hu, hnil, rfl⟩ := mapM_cons_eq_some.1 hus
  obtain rfl := Option.some.inj hnil
  obtain ⟨w, _, hw, hnil, rfl⟩ := mapM_cons_eq_some.1 hws
  obtain rfl := Option.some.inj hnil
  obtain ⟨xs, rfl⟩ := exists_read?_round hu
  obtain ⟨ys, -, rfl⟩ := Option.map_eq_some_iff.1 hw
  rw [← Built.tuple.inj heq] at hu
  exact read?_ne_nested _ _ hu

theorem agrees_one_piece (hcomma : ∀ p ∈ inside, p.isComma = false) :
    (Part.group .round inside).Agrees ↔
      ((∀ p ∈ inside, p.isMark = false) ∧ isTupleGroup inside = false) ∧
        ∀ p ∈ inside, p.isMark = false → p.Agrees := by
  by_cases hinside : inside = []
  · subst hinside
    exact iff_of_true ⟨.tuple [], rfl, rfl⟩ ⟨⟨nofun, rfl⟩, nofun⟩
  rw [agrees_group, read_one_piece hinside hcomma]
  constructor
  · rintro ⟨v, hread, hbuild⟩
    obtain ⟨us, hus, rfl⟩ := Option.map_eq_some_iff.1 hread
    have hmark : ∀ p ∈ inside, p.isMark = false := fun p hp =>
      have ⟨_, _, hu⟩ := (exists_of_mem_mapM hus).1 p hp
      isMark_of_read? hu
    rw [Bracket.build, items_of_isMark hmark] at hbuild
    obtain ⟨ws, hws, heq⟩ := Option.map_eq_some_iff.1 hbuild
    have hgroup := isTupleGroup_of_agrees hus hws heq
    rw [wrapped_gathered hinside hus hgroup] at heq
    obtain rfl := Built.tuple.inj heq
    exact ⟨⟨hmark, hgroup⟩, fun p hp _ => agrees_of_mapM hus hws p hp⟩
  · rintro ⟨⟨hmark, hgroup⟩, hagrees⟩
    rw [Bracket.build, items_of_isMark hmark]
    obtain ⟨vs, hread, hbuild⟩ := exists_mapM_of_agrees fun p hp => hagrees p hp (hmark p hp)
    refine ⟨.tuple vs, ?_, by rw [hbuild]; rfl⟩
    rw [hread, Option.map_some, wrapped_gathered hinside hread hgroup]

theorem length_pieces (parts : List Part) :
    (parts.splitOnP Part.isComma).length = parts.countP Part.isComma + 1 := by
  induction parts with
  | nil => rfl
  | cons p parts ih =>
    rw [splitOnP_cons_eq_if_modifyHead, countP_cons]
    cases p.isComma <;> simp [ih]

theorem tupled_of_two_le (h : 2 ≤ vs.length) : tupled vs = .tuple vs := by
  match vs with
  | [] => simp at h
  | [_] => simp at h
  | _ :: _ :: _ => rfl

theorem agrees_pieces (hpieces : 2 ≤ (inside.splitOnP Part.isComma).length) :
    (Part.group .round inside).Agrees ↔
      (inside.splitOnP Part.isComma).all isItem = true ∧
        ∀ p ∈ inside, p.isMark = false → p.Agrees := by
  have hinside : inside ≠ [] := by
    rintro rfl
    simp at hpieces
  rw [← items_agree_iff, agrees_group, read_round _ hinside, Bracket.build]
  refine exists_map_iff fun vs hvs ws => ?_
  have hlength := length_of_mapM hvs
  rw [length_map] at hlength
  rw [tupled_of_two_le (by omega), Built.tuple.injEq]

theorem agrees_round (inside : List Part) : (Part.group .round inside).Agrees ↔
    Bracket.round.separates inside = true ∧ ∀ p ∈ inside, p.isMark = false → p.Agrees := by
  have hlength := length_pieces inside
  by_cases hcomma : ∃ p ∈ inside, p.isComma = true
  · have hcount : 0 < inside.countP Part.isComma := countP_pos_iff.2 hcomma
    have hpieces : 2 ≤ (inside.splitOnP Part.isComma).length := by omega
    have hmark : inside.all (!·.isMark) = false := by
      obtain ⟨p, hp, hcomma⟩ := hcomma
      exact all_eq_false.2 ⟨p, hp, by simp [Part.isMark, hcomma]⟩
    rw [agrees_pieces hpieces, Bracket.separates]
    simp only [hmark, Bool.false_and, Bool.false_or, Bool.and_eq_true, decide_eq_true_eq, hpieces,
      true_and]
  · have hnone : ∀ p ∈ inside, p.isComma = false := by simpa using hcomma
    have hcount : inside.countP Part.isComma = 0 := by simpa [countP_eq_zero] using hnone
    rw [agrees_one_piece hnone, Bracket.separates]
    simp [hlength, hcount]

theorem pairs_eq_some_iff {entries : List (Built × Built)} :
    pairs vs = some entries ↔ vs = entries.flatMap fun entry => [entry.1, entry.2] := by
  fun_induction pairs vs generalizing entries with
  | case1 => cases entries <;> simp
  | case2 v => cases entries <;> simp
  | case3 key value vs ih =>
    cases entries with
    | nil => simp
    | cons entry entries => simp [ih, Prod.ext_iff, and_assoc, and_comm]

theorem exists_halves {piece : List Part} {entry : Built × Built}
    (h : readEntry (signsOf Bracket.read piece) = some entry) :
    ∃ halves : List Part × List Part, piece = halves.1 ++ .colon :: halves.2 ∧
      whole (signsOf Bracket.read halves.1) = some entry.1 ∧
      whole (signsOf Bracket.read halves.2) = some entry.2 ∧ ':' ∉ textOf halves.1 := by
  have hcolon : ':' ∈ textOf piece := by
    by_contra hcolon
    rw [readEntry_eq_none hcolon] at h
    cases h
  obtain ⟨before, p, after, rfl, hbefore, hp⟩ := exists_first_colon hcolon
  cases hsign : p.isColon with
  | false =>
    rw [readEntry_group hbefore hp hsign] at h
    cases h
  | true =>
    cases p <;> cases hsign
    rw [readEntry_colon hbefore] at h
    obtain ⟨key, hkey, h⟩ := Option.bind_eq_some_iff.1 h
    obtain ⟨value, hvalue, rfl⟩ := Option.map_eq_some_iff.1 h
    exact ⟨(before, after), rfl, hkey, hvalue, hbefore⟩

theorem exists_all_halves {pieces : List (List Part)} {entries : List (Built × Built)}
    (h : (pieces.map (signsOf Bracket.read)).mapM readEntry = some entries) :
    ∃ halves : List (List Part × List Part),
      pieces = halves.map (fun half => half.1 ++ .colon :: half.2) ∧
      (∀ half ∈ halves, ':' ∉ textOf half.1) ∧
      ((halves.flatMap fun half => [half.1, half.2]).map (signsOf Bracket.read)).mapM whole =
        some (entries.flatMap fun entry => [entry.1, entry.2]) := by
  induction pieces generalizing entries with
  | nil =>
    obtain rfl := Option.some.inj h
    exact ⟨[], rfl, forall_mem_nil _, rfl⟩
  | cons piece pieces ih =>
    rw [map_cons, mapM_cons_eq_some] at h
    obtain ⟨entry, others, hentry, hothers, rfl⟩ := h
    obtain ⟨half, rfl, hkey, hvalue, hcolon⟩ := exists_halves hentry
    obtain ⟨halves, rfl, hcolons, hwhole⟩ := ih hothers
    refine ⟨half :: halves, rfl, forall_mem_cons.2 ⟨hcolon, hcolons⟩, ?_⟩
    exact mapM_cons_eq_some.2 ⟨entry.1, _, hkey,
      mapM_cons_eq_some.2 ⟨entry.2, _, hvalue, hwhole, rfl⟩, rfl⟩

theorem exists_of_isEntry {piece : List Part} (h : isEntry piece = true) :
    ∃ entry : Part × Part, piece = [entry.1, .colon, entry.2] ∧
      entry.1.isMark = false ∧ entry.2.isMark = false ∧ ':' ∉ entry.1.text := by
  match piece, h with
  | [key, .colon, value], h =>
    refine ⟨(key, value), rfl, ?_⟩
    simpa [isEntry, and_assoc] using h

theorem filter_halves {halves : List (List Part × List Part)}
    (hmark : ∀ piece ∈ halves.flatMap fun half => [half.1, half.2], ∀ p ∈ piece, p.isMark = false) :
    (halves.map fun half => half.1 ++ .colon :: half.2).flatten.filter (!·.isColon) =
      (halves.flatMap fun half => [half.1, half.2]).flatten := by
  induction halves with
  | nil => rfl
  | cons half halves ih =>
    simp only [flatMap_cons, cons_append, nil_append, forall_mem_cons] at hmark
    obtain ⟨hkey, hvalue, hrest⟩ := hmark
    have hkept : ∀ {parts : List Part}, (∀ p ∈ parts, p.isMark = false) →
        parts.filter (!·.isColon) = parts := fun h =>
      filter_eq_self.2 fun p hp => isColon_of_isMark (h p hp)
    simp only [map_cons, flatMap_cons, flatten_cons, cons_append,
      nil_append, append_assoc, filter_append, hkept hkey]
    rw [filter_cons_of_neg (by decide), filter_append, hkept hvalue, ih hrest]

theorem filter_keyed {keyed : List (Part × Part)}
    (hmark : ∀ entry ∈ keyed, entry.1.isMark = false ∧ entry.2.isMark = false) :
    (keyed.map fun entry => [entry.1, .colon, entry.2]).flatten.filter (!·.isColon) =
      keyed.flatMap fun entry => [entry.1, entry.2] := by
  induction keyed with
  | nil => rfl
  | cons entry keyed ih =>
    rw [forall_mem_cons] at hmark
    simp only [map_cons, flatten_cons, flatMap_cons, cons_append,
      nil_append]
    rw [filter_cons, if_pos (isColon_of_isMark hmark.1.1), filter_cons_of_neg (by decide),
      filter_cons, if_pos (isColon_of_isMark hmark.1.2), ih hmark.2]

theorem exists_entries {keyed : List (Part × Part)}
    (hplain : ∀ entry ∈ keyed, ':' ∉ entry.1.text)
    (hagrees : ∀ entry ∈ keyed, entry.1.Agrees ∧ entry.2.Agrees) :
    ∃ entries : List (Built × Built),
      ((keyed.map fun entry => [entry.1, .colon, entry.2]).map
        (signsOf Bracket.read)).mapM readEntry = some entries ∧
      (keyed.flatMap fun entry => [entry.1, entry.2]).mapM Part.build? =
        some (entries.flatMap fun entry => [entry.1, entry.2]) := by
  induction keyed with
  | nil => exact ⟨[], rfl, rfl⟩
  | cons entry keyed ih =>
    rw [forall_mem_cons] at hplain hagrees
    obtain ⟨⟨⟨key, hkey, hkey'⟩, value, hvalue, hvalue'⟩, hrest⟩ := hagrees
    obtain ⟨entries, hread, hbuild⟩ := ih hplain.2 hrest
    have hone : ∀ {p : Part} {v : Built}, p.read? = some v →
        whole (signsOf Bracket.read [p]) = some v := by
      intro p v hv
      rw [whole_signsOf, mapM_cons, hv]
      rfl
    have hentry : readEntry (signsOf Bracket.read [entry.1, .colon, entry.2]) =
        some (key, value) := by
      have hkeyText : ':' ∉ textOf [entry.1] := by simpa [textOf] using hplain.1
      rw [← singleton_append, readEntry_colon hkeyText, hone hkey, hone hvalue]
      rfl
    refine ⟨(key, value) :: entries, ?_, ?_⟩
    · exact mapM_cons_eq_some.2 ⟨_, entries, hentry, hread, rfl⟩
    · exact mapM_cons_eq_some.2 ⟨key, _, hkey',
        mapM_cons_eq_some.2 ⟨value, _, hvalue', hbuild, rfl⟩, rfl⟩

theorem agrees_curly (inside : List Part) : (Part.group .curly inside).Agrees ↔
    Bracket.curly.separates inside = true ∧ ∀ p ∈ inside, p.isMark = false → p.Agrees := by
  rw [Bracket.separates, agrees_group, read_curly, Bracket.build, items_pieces, all_eq_true]
  constructor
  · rintro ⟨v, hread, hbuild⟩
    obtain ⟨entries, hentries, rfl⟩ := Option.map_eq_some_iff.1 hread
    obtain ⟨entries', hpairs, heq⟩ := Option.map_eq_some_iff.1 hbuild
    obtain rfl := Built.dict.inj heq
    obtain ⟨vs, hvs, hpairs⟩ := Option.bind_eq_some_iff.1 hpairs
    obtain rfl := pairs_eq_some_iff.1 hpairs
    obtain ⟨halves, hpieces, hcolons, hwhole⟩ := exists_all_halves hentries
    have hmark : ∀ piece ∈ halves.flatMap fun half => [half.1, half.2],
        ∀ p ∈ piece, p.isMark = false := by
      intro piece hpiece
      obtain ⟨v, -, hv⟩ := (exists_of_mem_mapM hwhole).1 _ (mem_map_of_mem hpiece)
      exact isMark_of_whole hv
    rw [hpieces, filter_halves hmark] at hvs
    obtain ⟨parts, hparts, hagrees⟩ := exists_parts_of_mapM hwhole hvs
    have hone : ∀ half ∈ halves, ∀ piece ∈ [half.1, half.2], ∃ p, piece = [p] ∧ p.Agrees := by
      intro half hhalf piece hpiece
      have hmem : piece ∈ halves.flatMap fun half => [half.1, half.2] :=
        mem_flatMap.2 ⟨half, hhalf, hpiece⟩
      rw [hparts] at hmem
      obtain ⟨p, hp, rfl⟩ := mem_map.1 hmem
      exact ⟨p, rfl, hagrees p hp⟩
    constructor
    · rw [hpieces, forall_mem_map]
      intro half hhalf
      obtain ⟨key, hkey, k, hk, -⟩ := hone half hhalf half.1 (by simp)
      obtain ⟨value, hvalue, w, hw, -⟩ := hone half hhalf half.2 (by simp)
      have hcolon := hcolons half hhalf
      rw [hkey] at hcolon
      rw [hkey, hvalue]
      have hplain : ':' ∉ key.text := by simpa [textOf] using hcolon
      simp [isEntry, isMark_of_read? hk, isMark_of_read? hw, hplain]
    · intro p hp hmark'
      have hmem : p ∈ (inside.splitOnP Part.isComma).flatten.filter (!·.isColon) :=
        mem_filter.2 ⟨mem_flatten_pieces hp hmark', isColon_of_isMark hmark'⟩
      rw [hpieces, filter_halves hmark, hparts, flatten_singletons] at hmem
      exact hagrees p hmem
  · rintro ⟨hentries, hagrees⟩
    obtain ⟨keyed, hpieces, hkeyed⟩ := exists_map_eq fun piece hpiece =>
      exists_of_isEntry (hentries piece hpiece)
    have hmem : ∀ entry ∈ keyed, entry.1 ∈ inside ∧ entry.2 ∈ inside := by
      intro entry hentry
      have hpiece : [entry.1, .colon, entry.2] ∈ inside.splitOnP Part.isComma := by
        rw [hpieces]
        exact mem_map_of_mem hentry
      exact ⟨mem_of_mem_splitOnP hpiece (by simp), mem_of_mem_splitOnP hpiece (by simp)⟩
    obtain ⟨entries, hread, hbuild⟩ := exists_entries (fun entry hentry => (hkeyed entry hentry).2.2)
      fun entry hentry => ⟨hagrees _ (hmem entry hentry).1 (hkeyed entry hentry).1,
        hagrees _ (hmem entry hentry).2 (hkeyed entry hentry).2.1⟩
    rw [hpieces, hread, filter_keyed fun entry hentry =>
      ⟨(hkeyed entry hentry).1, (hkeyed entry hentry).2.1⟩, hbuild]
    exact ⟨.dict entries, rfl, congrArg (Option.map Built.dict) (pairs_eq_some_iff.2 rfl)⟩

theorem Part.agrees_iff (hp : p.isMark = false) : p.Agrees ↔ p.separated = true := by
  induction p using Part.ind with
  | unit u => exact iff_of_true ⟨.unit u, rfl, rfl⟩ rfl
  | comma => cases hp
  | colon => cases hp
  | group b inside ih =>
    have hinside : (∀ p ∈ inside, p.isMark = false → p.Agrees) ↔ allSeparated inside = true := by
      rw [allSeparated_iff]
      exact forall₃_congr fun p hp hmark => ih p hp hmark
    have hgroup : (Part.group b inside).Agrees ↔
        b.separates inside = true ∧ ∀ p ∈ inside, p.isMark = false → p.Agrees := by
      cases b with
      | round => exact agrees_round inside
      | square => exact agrees_square inside
      | curly => exact agrees_curly inside
    rw [hgroup, hinside, Part.separated, Bool.and_eq_true]

theorem gathered_inj {us ws : List Built} (hlength : us.length = ws.length)
    (h : gathered us = gathered ws) : us = ws := by
  match us, ws with
  | [], [] => rfl
  | [u], [w] => exact congrArg ([·]) h
  | u :: u' :: us, w :: w' :: ws => exact Built.tuple.inj h

theorem readOf_eq_builtOf_iff (parts : List Part) :
    (∃ v, readOf parts = some v ∧ builtOf parts = some v) ↔ wellSeparated parts = true := by
  have hall : wellSeparated parts = true ↔
      (∀ p ∈ parts, p.isMark = false) ∧ ∀ p ∈ parts, p.isMark = false → p.Agrees := by
    rw [wellSeparated, Bool.and_eq_true, allSeparated_iff]
    refine and_congr (by simp) (forall₃_congr fun p hp hmark => (p.agrees_iff hmark).symm)
  rw [hall, readOf, builtOf]
  constructor
  · rintro ⟨v, hread, hbuild⟩
    have hmark := isMark_of_whole hread
    rw [whole_signsOf] at hread
    rw [items_of_isMark hmark] at hbuild
    obtain ⟨us, hus, rfl⟩ := Option.map_eq_some_iff.1 hread
    obtain ⟨ws, hws, heq⟩ := Option.map_eq_some_iff.1 hbuild
    have hlength : ws.length = us.length := by rw [length_of_mapM hus, length_of_mapM hws]
    obtain rfl := gathered_inj hlength heq
    exact ⟨hmark, fun p hp _ => agrees_of_mapM hus hws p hp⟩
  · rintro ⟨hmark, hagrees⟩
    obtain ⟨vs, hread, hbuild⟩ := exists_mapM_of_agrees fun p hp => hagrees p hp (hmark p hp)
    exact ⟨gathered vs, by rw [whole_signsOf, hread]; rfl, by rw [items_of_isMark hmark, hbuild]; rfl⟩

/-- A format has the type of the value it is read as. That is the value it stands for exactly if its
separators are well placed, and formats with well placed separators that differ in nothing but these
have the same type. -/
theorem buildType_ignores_separators_iff (sets : Listing String) {format : String}
    {parts : List Part} (hformat : Spells format parts) :
    (buildType sets format).toOption = (readOf parts).map (Built.type sets) ∧
      ((∃ v, readOf parts = some v ∧ builtOf parts = some v) ↔ wellSeparated parts = true) ∧
      (wellSeparated parts = true →
        ∃ v, builtOf parts = some v ∧ buildType sets format = .ok (v.type sets)) ∧
      ∀ format' parts', Spells format' parts' → bareOf parts' = bareOf parts →
        wellSeparated parts = true → wellSeparated parts' = true →
          buildType sets format' = buildType sets format := by
  have hbuilds : ∀ {format parts}, Spells format parts → wellSeparated parts = true →
      ∃ v, builtOf parts = some v ∧ buildType sets format = .ok (v.type sets) := by
    intro format parts hformat hseparated
    obtain ⟨v, hread, hbuilt⟩ := (readOf_eq_builtOf_iff parts).2 hseparated
    refine ⟨v, hbuilt, Fault.eq_ok_of_toOption ?_⟩
    rw [buildType_of_spells hformat, hread, Option.map_some]
  refine ⟨buildType_of_spells hformat, readOf_eq_builtOf_iff parts, hbuilds hformat, ?_⟩
  intro format' parts' hformat' hbare hseparated hseparated'
  obtain ⟨v, hv, htype⟩ := hbuilds hformat hseparated
  obtain ⟨w, hw, htype'⟩ := hbuilds hformat' hseparated'
  rw [← builtOf_bareOf, hbare, builtOf_bareOf, hv] at hw
  obtain rfl := Option.some.inj hw
  rw [htype, htype']

/-- The parts of `(i, (s# s#), [i, s#])`. -/
def spacedParts : List Part :=
  [.group .round [.unit .int, .comma, .group .round [.unit .text, .unit .text], .comma,
    .group .square [.unit .int, .comma, .unit .text]]]

/-- The parts of `(i(s#,s#)[i,s#])`: the same values, with other commas. -/
def denseParts : List Part :=
  [.group .round [.unit .int, .group .round [.unit .text, .comma, .unit .text],
    .group .square [.unit .int, .comma, .unit .text]]]

theorem buildType_ignores_separators_dense :
    Spells "(i, (s# s#), [i, s#])" spacedParts ∧ wellSeparated spacedParts = true ∧
      Spells "(i(s#,s#)[i,s#])" denseParts ∧ wellSeparated denseParts = true ∧
      bareOf denseParts = bareOf spacedParts ∧
      buildType .asGiven "(i(s#,s#)[i,s#])" = buildType .asGiven "(i, (s# s#), [i, s#])" := by
  have hspaced : Spells "(i, (s# s#), [i, s#])" spacedParts := by decide
  have hdense : Spells "(i(s#,s#)[i,s#])" denseParts := by decide
  have hwell : wellSeparated spacedParts = true := by decide
  have hwell' : wellSeparated denseParts = true := by decide
  obtain ⟨-, -, -, hsame⟩ := buildType_ignores_separators_iff .asGiven hspaced
  exact ⟨hspaced, hwell, hdense, hwell', rfl, hsame _ _ hdense rfl hwell hwell'⟩

/-- A tuple of a tuple is given the type of the inner one. -/
theorem nested_tuple_loses_brackets :
    Spells "((i))" [.group .round [.group .round [.unit .int]]] ∧
      builtOf [.group .round [.group .round [.unit .int]]] = some (.tuple [.tuple [.unit .int]]) ∧
      ∀ sets, (Built.tuple [.tuple [.unit .int]]).type sets = "tuple[tuple[int]]" ∧
        buildType sets "((i))" = .ok "tuple[int]" :=
  ⟨by decide, rfl, fun _ => ⟨rfl, rfl⟩⟩

end BindingStubs.Format.Build
