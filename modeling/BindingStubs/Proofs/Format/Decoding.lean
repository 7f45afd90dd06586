import BindingStubs.Format.Decode
import BindingStubs.Proofs.Session
import BindingStubs.Proofs.Signature.Validity

set_option autoImplicit false

/-! # Runs of the decoder -/

namespace BindingStubs

open Gen

namespace ClassReference

theorem indifferent_description? (stem namespace_ : String) :
    Indifferent (description? stem namespace_) := by
  refine .bind .read fun project => ?_
  dsimp only
  split
  · exact .pure _
  · exact .pure _
  · split
    · exact .pure _
    · exact .bind (.report _ _ _) fun _ => .pure _

theorem indifferent_readDescription (p : Path) : Indifferent (readDescription p) :=
  .bind .read fun _ => .bind (.demand _) fun _ => .demand _

theorem indifferent_attributeOf (e : Xml.Element) (name : String) :
    Indifferent (attributeOf e name) := by
  rw [attributeOf]
  split
  · exact .pure _
  · exact .throw _

theorem indifferent_ofElement (e : Xml.Element) : Indifferent (ofElement e) := by
  rw [ofElement]
  dsimp only
  split
  · split
    · exact .throw _
    · exact .pure _
    · exact .pure _
  · exact .bind (indifferent_attributeOf e _) fun _ => .bind .read fun _ =>
      .bind (indifferent_attributeOf e _) fun _ => .pure _

theorem indifferent_ofStem (stem namespace_ : String) : Indifferent (ofStem stem namespace_) := by
  refine .bind (indifferent_description? stem namespace_) fun found => ?_
  cases found with
  | none => exact .pure _
  | some p =>
    refine .bind (indifferent_readDescription p) fun root => ?_
    split
    · split
      · exact .throw _
      · exact indifferent_ofElement _
    · exact .throw _

theorem indifferent_ofCppType (written : String) : Indifferent (ofCppType written) :=
  .bind (.demand _) fun _ => indifferent_ofStem _ _

end ClassReference

namespace Format

theorem indifferent_typeOfPointer? (written : String) : Indifferent (typeOfPointer? written) := by
  rw [typeOfPointer?]
  split
  · exact .bind (ClassReference.indifferent_ofCppType _) fun _ =>
      .bind (.demand _) fun _ => .bind (.need _) fun _ => .pure _
  · split
    · split
      · exact .pure _
      · exact .throw _
    · exact .bind (.report _ _ _) fun _ => .pure _

def pointerTypeIn (project : Project) (written : String) : Option String :=
  ((typeOfPointer? written).run project {}).1.toOption.join

theorem pointerTypeIn_eq {project : Project} {written : String} {s t : Session}
    {type : Option String} (h : (typeOfPointer? written).run project s = (.ok type, t)) :
    pointerTypeIn project written = type := by
  have outcome : ((typeOfPointer? written).run project {}).1 = .ok type :=
    (indifferent_typeOfPointer? written project {} s).trans (congrArg Prod.fst h)
  rw [pointerTypeIn, outcome, Except.toOption, Option.join_some]

theorem head?_of_pointerType? {project : Project} {written : List String} {s t : Session}
    {type : String} (h : (pointerType? written).run project s = (.ok (some type), t)) :
    written.head?.bind (pointerTypeIn project) = some type := by
  cases written with
  | nil => cases h
  | cons first rest =>
    rw [pointerType?] at h
    obtain ⟨found, u, hfirst, h⟩ := run_bind_eq_ok.mp h
    have meant := pointerTypeIn_eq hfirst
    cases found with
    | some type' =>
      cases h
      rw [List.head?_cons, Option.bind_some, meant]
    | none =>
      -- the others are only looked at to report them
      obtain ⟨_, _, -, h⟩ := run_bind_eq_ok.mp h
      cases h

end Format

end BindingStubs

namespace BindingStubs.Format

open Gen List

def Decodes (c : ParseCall) (project : Project) (p : Progress) (s : Session)
    (xs : List (Symbol × List Char)) (ps : List Parameter) (q : Progress) (t : Session) : Prop :=
  (decodeFrom c p xs).run project s = (.ok (ps, some q), t)

variable {c : ParseCall} {project : Project} {p q : Progress} {s t : Session}

variable {ps : List Parameter}

theorem decodes_nil : Decodes c project p s [] ps q t ↔ ps = [] ∧ q = p ∧ t = s := by
  rw [Decodes, decodeFrom, run_pure]
  constructor
  · intro h
    cases h
    exact ⟨rfl, rfl, rfl⟩
  · rintro ⟨rfl, rfl, rfl⟩
    rfl

variable {x : Symbol × List Char}

theorem decodes_cons {xs : List (Symbol × List Char)} :
    Decodes c project p s (x :: xs) ps q t ↔ ∃ made m u more,
      (decodeSymbol c p x).run project s = (.ok (made, some m), u) ∧
        Decodes c project m u xs more q t ∧ ps = made.toList ++ more := by
  rw [Decodes, decodeFrom, run_bind_eq_ok]
  constructor
  · rintro ⟨⟨made, progress⟩, u, hx, h⟩
    cases progress with
    | none => cases h
    | some m =>
      obtain ⟨⟨more, last⟩, _, hxs, h⟩ := run_bind_eq_ok.mp h
      cases h
      exact ⟨made, m, u, more, hx, hxs, rfl⟩
  · rintro ⟨made, m, u, more, hx, hxs, rfl⟩
    exact ⟨(made, some m), u, hx, run_bind_eq_ok.mpr ⟨(more, some q), t, hxs, rfl⟩⟩

theorem decodes_singleton (h : Decodes c project p s [x] ps q t) :
    ∃ made, (decodeSymbol c p x).run project s = (.ok (made, some q), t) ∧ ps = made.toList := by
  obtain ⟨made, m, u, more, hx, hrest, rfl⟩ := decodes_cons.mp h
  obtain ⟨rfl, rfl, rfl⟩ := decodes_nil.mp hrest
  exact ⟨made, hx, append_nil _⟩

theorem decodes_append {xs ys : List (Symbol × List Char)} :
    Decodes c project p s (xs ++ ys) ps q t ↔ ∃ first m u second,
      Decodes c project p s xs first m u ∧ Decodes c project m u ys second q t ∧
        ps = first ++ second := by
  induction xs generalizing p s ps with
  | nil =>
    constructor
    · intro h
      exact ⟨[], p, s, ps, decodes_nil.mpr ⟨rfl, rfl, rfl⟩, h, rfl⟩
    · rintro ⟨first, m, u, second, hxs, hys, rfl⟩
      obtain ⟨rfl, rfl, rfl⟩ := decodes_nil.mp hxs
      exact hys
  | cons x xs ih =>
    rw [cons_append, decodes_cons]
    constructor
    · rintro ⟨made, m, u, more, hx, h, rfl⟩
      obtain ⟨first, m', u', second, hxs, hys, rfl⟩ := ih.mp h
      exact ⟨made.toList ++ first, m', u', second,
        decodes_cons.mpr ⟨made, m, u, first, hx, hxs, rfl⟩, hys, (append_assoc _ _ _).symm⟩
    · rintro ⟨first, m', u', second, h, hys, rfl⟩
      obtain ⟨made, m, u, more, hx, hxs, rfl⟩ := decodes_cons.mp h
      exact ⟨made, m, u, more ++ second, hx, ih.mpr ⟨more, m', u', second, hxs, hys, rfl⟩,
        append_assoc _ _ _⟩

/-- Types are placed: as parameters with these types if no group is open, else as slots of the
innermost group. -/
inductive Places : Groups → List String → List Parameter → Groups → Prop
  | outside {types : List String} {ps : List Parameter}
      (hints : ps.map Parameter.hint = types.map fun type => TypeHint.ofList? [type]) :
      Places ⟨[]⟩ types ps ⟨[]⟩
  | inside (inner : List Slot) (outer : List (List Slot)) (slots : List Slot) :
      Places ⟨inner :: outer⟩ (slots.map Slot.type) [] ⟨(inner ++ slots) :: outer⟩

theorem Places.none (g : Groups) : Places g [] [] g := by
  obtain ⟨stack⟩ := g
  cases stack with
  | nil => exact .outside rfl
  | cons inner outer =>
    have place := Places.inside inner outer []
    rwa [append_nil] at place

theorem Places.of_open {inner : List Slot} {outer : List (List Slot)} {types : List String}
    {g : Groups} (h : Places ⟨inner :: outer⟩ types ps g) :
    ps = [] ∧ ∃ slots, slots.map Slot.type = types ∧ g = ⟨(inner ++ slots) :: outer⟩ := by
  cases h with
  | inside _ _ slots => exact ⟨rfl, slots, rfl, rfl⟩

theorem Places.append {g g' g'' : Groups} {types types' : List String} {ps ps' : List Parameter}
    (first : Places g types ps g') (second : Places g' types' ps' g'') :
    Places g (types ++ types') (ps ++ ps') g'' := by
  cases first with
  | outside hints =>
    cases second with
    | outside hints' =>
      refine .outside ?_
      rw [map_append, map_append, hints, hints']
  | inside inner outer slots =>
    cases second with
    | inside _ _ slots' =>
      rw [← map_append, append_assoc]
      exact .inside inner outer (slots ++ slots')

variable {made : Option Parameter}

theorem run_placeSlot {slot : Slot} (h : (placeSlot p slot).run project s = (.ok (made, q), t)) :
    Places p.groups [slot.type] made.toList q.groups ∧ q.argumentIndex = p.argumentIndex := by
  rw [placeSlot] at h
  obtain ⟨_, _, _, argumentIndex, ⟨stack⟩⟩ := p
  cases stack with
  | nil =>
    obtain ⟨parameter, _, hmade, h⟩ := run_bind_eq_ok.mp h
    cases h
    refine ⟨.outside ?_, rfl⟩
    rw [Option.toList_some, map_singleton, map_singleton,
      (Parameter.make_parts (run_demand_eq_ok.mp hmade).1).2.2.1]
  | cons inner outer =>
    obtain ⟨groups, _, hadd, h⟩ := run_bind_eq_ok.mp h
    cases h
    cases (run_demand_eq_ok.mp hadd).1
    exact ⟨.inside inner outer [slot], rfl⟩

def unitTypeIn (project : Project) (u : ArgumentUnit) (arguments : List String) : Option String :=
  if u.code == pointerCode then arguments.head?.bind (pointerTypeIn project) else some u.type

theorem run_unitType? {u : ArgumentUnit} {type : String}
    (h : (unitType? c p u).run project s = (.ok (some type), t)) :
    unitTypeIn project u (c.arguments.drop p.argumentIndex) = some type := by
  rw [unitType?] at h
  rw [unitTypeIn]
  split at h
  · next pointer => rw [if_pos pointer, head?_of_pointerType? h]
  · next plain =>
    cases h
    rw [if_neg plain]

theorem run_unitSlot {u : ArgumentUnit} {type : String} {slot : Slot} {optional : Bool}
    (h : (unitSlot c p u type).run project s = (.ok (slot, optional), t)) : slot.type = type := by
  rw [unitSlot] at h
  obtain ⟨name, _, -, h⟩ := run_bind_eq_ok.mp h
  obtain ⟨default, _, -, h⟩ := run_bind_eq_ok.mp h
  cases h
  rfl

variable {remaining : List Char}

theorem decodeSymbol_unit {u : ArgumentUnit}
    (h : (decodeSymbol c p (.unit u, remaining)).run project s = (.ok (made, some q), t)) :
    ∃ type, unitTypeIn project u (c.arguments.drop p.argumentIndex) = some type ∧
      Places p.groups [type] made.toList q.groups ∧
        q.argumentIndex = p.argumentIndex + u.size := by
  rw [decodeSymbol] at h
  obtain ⟨found, _, htype, h⟩ := run_bind_eq_ok.mp h
  cases found with
  | none =>
    obtain ⟨_, _, -, h⟩ := run_bind_eq_ok.mp h
    cases h
  | some type =>
    obtain ⟨⟨slot, optional⟩, _, hslot, h⟩ := run_bind_eq_ok.mp h
    obtain ⟨⟨made, m⟩, _, hplace, h⟩ := run_bind_eq_ok.mp h
    cases h
    obtain ⟨place, index⟩ := run_placeSlot hplace
    rw [run_unitSlot hslot] at place
    exact ⟨type, run_unitType? htype, place, congrArg (· + u.size) index⟩

theorem decodeSymbol_groupEnd
    (h : (decodeSymbol c p (.groupEnd, remaining)).run project s = (.ok (made, some q), t)) :
    ∃ slots outer slot, p.groups.open_ = slots :: outer ∧ Slot.ofGroup slots = .ok slot ∧
      Places ⟨outer⟩ [slot.type] made.toList q.groups ∧ q.argumentIndex = p.argumentIndex := by
  obtain ⟨_, _, _, _, ⟨stack⟩⟩ := p
  rw [decodeSymbol] at h
  obtain ⟨slot, _, hslot, h⟩ := run_bind_eq_ok.mp h
  obtain ⟨⟨made, m⟩, _, hplace, h⟩ := run_bind_eq_ok.mp h
  cases h
  have finished := (run_demand_eq_ok.mp hslot).1
  cases stack with
  | nil => cases finished
  | cons slots outer => exact ⟨slots, outer, slot, rfl, finished, run_placeSlot hplace⟩

theorem decodeSymbol_groupStart
    (h : (decodeSymbol c p (.groupStart, remaining)).run project s = (.ok (made, some q), t)) :
    made = none ∧ q.groups = p.groups.start ∧ q.argumentIndex = p.argumentIndex := by
  cases h
  exact ⟨rfl, rfl, rfl⟩

theorem decodeSymbol_switch {x : Symbol} (switch : x = .optional ∨ x = .keywordOnly ∨ x = .unknown)
    (h : (decodeSymbol c p (x, remaining)).run project s = (.ok (made, some q), t)) :
    made = none ∧ q.groups = p.groups ∧ q.argumentIndex = p.argumentIndex := by
  rcases switch with rfl | rfl | rfl <;>
  · cases h
    exact ⟨rfl, rfl, rfl⟩

def Symbol.size : Symbol → Nat
  | .unit u => u.size
  | _ => 0

def argumentCount : List (Symbol × List Char) → Nat
  | [] => 0
  | x :: xs => x.1.size + argumentCount xs

theorem decodeSymbol_argumentIndex
    (h : (decodeSymbol c p x).run project s = (.ok (made, some q), t)) :
    q.argumentIndex = p.argumentIndex + x.1.size := by
  obtain ⟨x, remaining⟩ := x
  cases x with
  | unit u =>
    obtain ⟨_, -, -, index⟩ := decodeSymbol_unit h
    exact index
  | groupStart => exact (decodeSymbol_groupStart h).2.2
  | groupEnd =>
    obtain ⟨_, _, _, -, -, -, index⟩ := decodeSymbol_groupEnd h
    exact index
  | optional => exact (decodeSymbol_switch (.inl rfl) h).2.2
  | keywordOnly => exact (decodeSymbol_switch (.inr (.inl rfl)) h).2.2
  | unknown => exact (decodeSymbol_switch (.inr (.inr rfl)) h).2.2

theorem decodes_argumentIndex {xs : List (Symbol × List Char)}
    (h : Decodes c project p s xs ps q t) :
    q.argumentIndex = p.argumentIndex + argumentCount xs := by
  induction xs generalizing p s ps with
  | nil =>
    obtain ⟨-, rfl, -⟩ := decodes_nil.mp h
    rfl
  | cons x xs ih =>
    obtain ⟨made, m, u, more, hx, hxs, -⟩ := decodes_cons.mp h
    rw [ih hxs, decodeSymbol_argumentIndex hx, argumentCount, Nat.add_assoc]

end BindingStubs.Format
