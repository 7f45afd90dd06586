import BindingStubs.Proofs.Agreement
import BindingStubs.Proofs.Format.Decoding

set_option autoImplicit false

/-! # Slots and their places -/

namespace BindingStubs.Format

open Gen List

namespace ParseCall

variable (c : ParseCall) (code : String) (index number : Nat)

def receiverAt : Option String :=
  (c.arguments[if startsWithMarker code then index + 1 else index]?).filter Text.isAlnumText

def keywordAt : Option String := if c.style.byKeyword then c.keywords[number]? else none

def nameAt : String :=
  (c.keywordAt number).getD ((c.receiverAt code index).getD (c.madeUpName number))

variable (project : Project)

theorem ends_receiver? :
    Ends project (c.receiver? code index) (.ok (c.receiverAt code index)) := by
  intro s
  simp only [receiver?, receiverAt]
  cases c.arguments[if startsWithMarker code then index + 1 else index]? with
  | none => rfl
  | some name =>
    rw [Option.filter_some]
    rfl

theorem ends_parameterName :
    Ends project (c.parameterName code index number) (.ok (c.nameAt code index number)) := by
  have received := c.ends_receiver? code index project
  simp only [parameterName, nameAt, keywordAt]
  cases (if c.style.byKeyword then c.keywords[number]? else none) with
  | some name => exact fun _ => rfl
  | none =>
    cases c.style.byKeyword <;> simp only [Option.getD_none]
    · refine received.bind ?_
      cases c.receiverAt code index <;> exact fun _ => rfl
    · refine Ends.bind (a := ()) (fun _ => rfl) (received.bind ?_)
      cases c.receiverAt code index <;> exact fun _ => rfl

end ParseCall

variable {c : ParseCall} {project : Project} {p q : Progress} {s t : Session}

theorem isAbsent_unitDefault {code : String} {default : SlotDefault} (optional : p.optional = true)
    (h : (unitDefault c p code).run project s = (.ok default, t)) : default.isAbsent = false := by
  simp only [unitDefault, optional, ↓reduceIte] at h
  obtain ⟨receiver, _, -, h⟩ := run_bind_eq_ok.mp h
  cases receiver with
  | none =>
    cases h
    rfl
  | some name =>
    obtain ⟨values, _, -, h⟩ := run_bind_eq_ok.mp h
    obtain ⟨value, _, -, h⟩ := run_bind_eq_ok.mp h
    cases value with
    | some d =>
      cases h
      rfl
    | none =>
      dsimp only at h
      split at h
      · obtain ⟨_, _, -, h⟩ := run_bind_eq_ok.mp h
        cases h
        rfl
      · cases h
        rfl

structure Placement where
  slot : Slot
  kind : ParameterKind

def Placement.make (m : Placement) : Except Fault Parameter :=
  Parameter.make m.slot.name m.kind m.slot.default.toDefault? (TypeHint.ofList? [m.slot.type])

inductive Placed (p : Progress) (slot : Slot) : Option Placement → Progress → Prop
  | inside {inner : List Slot} {outer : List (List Slot)}
      (opened : p.groups.open_ = inner :: outer) :
      Placed p slot none { p with groups := ⟨(inner ++ [slot]) :: outer⟩ }
  | outside (closed : p.groups.open_ = []) :
      Placed p slot (some ⟨slot, p.kind⟩) { p with parameterIndex := p.parameterIndex + 1 }

theorem placed_of_run {slot : Slot} {made : Option Parameter}
    (h : (placeSlot p slot).run project s = (.ok (made, q), t)) :
    ∃ m, Placed p slot m q ∧ m.map Placement.make = made.map .ok := by
  cases opened : p.groups.open_ with
  | nil =>
    simp only [placeSlot, Groups.isOpen, opened] at h
    obtain ⟨parameter, _, hmade, h⟩ := run_bind_eq_ok.mp h
    cases h
    exact ⟨_, .outside opened, congrArg some (run_demand_eq_ok.mp hmade).1⟩
  | cons inner outer =>
    simp only [placeSlot, Groups.isOpen, Groups.add, opened] at h
    obtain ⟨groups, _, hadd, h⟩ := run_bind_eq_ok.mp h
    cases h
    cases (run_demand_eq_ok.mp hadd).1
    exact ⟨none, .inside opened, rfl⟩

inductive Advances (c : ParseCall) (p : Progress) : Symbol → Option Placement → Progress → Prop
  | groupStart : Advances c p .groupStart none { p with groups := p.groups.start }
  | groupEnd {slots : List Slot} {outer : List (List Slot)} {slot : Slot} {m : Option Placement}
      {q : Progress} (opened : p.groups.open_ = slots :: outer)
      (grouped : Slot.ofGroup slots = .ok slot)
      (placed : Placed { p with groups := ⟨outer⟩ } slot m q) : Advances c p .groupEnd m q
  | optional : Advances c p .optional none { p with optional := true }
  | keywordOnly : Advances c p .keywordOnly none { p with optional := true, kind := .keyword }
  | unknown : Advances c p .unknown none p
  | unit {u : ArgumentUnit} {type : String} {default : SlotDefault} {m : Option Placement}
      {q : Progress} (defaulted : p.optional = true → default.isAbsent = false)
      (placed : Placed { p with optional := p.optional || !default.isAbsent }
        ⟨type, c.nameAt u.code p.argumentIndex p.parameterIndex, default⟩ m q) :
      Advances c p (.unit u) m { q with argumentIndex := q.argumentIndex + u.size }

theorem run_unitSlot_eq {u : ArgumentUnit} {type : String} {slot : Slot} {optional : Bool}
    (h : (unitSlot c p u type).run project s = (.ok (slot, optional), t)) :
    ∃ default : SlotDefault, (p.optional = true → default.isAbsent = false) ∧
      slot = ⟨type, c.nameAt u.code p.argumentIndex p.parameterIndex, default⟩ ∧
        optional = (p.optional || !default.isAbsent) := by
  rw [unitSlot] at h
  obtain ⟨name, _, hname, h⟩ := run_bind_eq_ok.mp h
  obtain ⟨default, _, hdefault, h⟩ := run_bind_eq_ok.mp h
  cases h
  have named := c.ends_parameterName u.code p.argumentIndex p.parameterIndex project s
  rw [hname, Except.ok.injEq] at named
  rw [named]
  exact ⟨default, fun optional => isAbsent_unitDefault optional hdefault, rfl, rfl⟩

theorem advances_of_run {x : Symbol} {remaining : List Char} {made : Option Parameter}
    (h : (decodeSymbol c p (x, remaining)).run project s = (.ok (made, some q), t)) :
    ∃ m, Advances c p x m q ∧ m.map Placement.make = made.map .ok := by
  cases x with
  | groupStart =>
    cases h
    exact ⟨none, .groupStart, rfl⟩
  | optional =>
    cases h
    exact ⟨none, .optional, rfl⟩
  | keywordOnly =>
    cases h
    exact ⟨none, .keywordOnly, rfl⟩
  | unknown =>
    cases h
    exact ⟨none, .unknown, rfl⟩
  | groupEnd =>
    rw [decodeSymbol] at h
    obtain ⟨slot, _, hslot, h⟩ := run_bind_eq_ok.mp h
    obtain ⟨⟨made, q⟩, _, hplace, h⟩ := run_bind_eq_ok.mp h
    cases h
    have finished := (run_demand_eq_ok.mp hslot).1
    obtain ⟨m, placed, makes⟩ := placed_of_run hplace
    obtain ⟨_, _, _, _, ⟨stack⟩⟩ := p
    cases stack with
    | nil => cases finished
    | cons slots outer => exact ⟨m, .groupEnd rfl finished placed, makes⟩
  | unit u =>
    rw [decodeSymbol] at h
    obtain ⟨found, _, -, h⟩ := run_bind_eq_ok.mp h
    cases found with
    | none =>
      obtain ⟨_, _, -, h⟩ := run_bind_eq_ok.mp h
      cases h
    | some type =>
      obtain ⟨⟨slot, optional⟩, _, hslot, h⟩ := run_bind_eq_ok.mp h
      obtain ⟨⟨made, q⟩, _, hplace, h⟩ := run_bind_eq_ok.mp h
      cases h
      obtain ⟨m, placed, makes⟩ := placed_of_run hplace
      obtain ⟨default, defaulted, rfl, rfl⟩ := run_unitSlot_eq hslot
      exact ⟨m, .unit defaulted placed, makes⟩

theorem made_of_run {x : Symbol × List Char} {made : Option Parameter}
    (h : (decodeSymbol c p x).run project s = (.ok (made, none), t)) : made = none := by
  obtain ⟨x, remaining⟩ := x
  cases x with
  | groupStart | optional | keywordOnly | unknown => cases h
  | groupEnd =>
    rw [decodeSymbol] at h
    obtain ⟨_, _, -, h⟩ := run_bind_eq_ok.mp h
    obtain ⟨_, _, -, h⟩ := run_bind_eq_ok.mp h
    cases h
  | unit u =>
    rw [decodeSymbol] at h
    obtain ⟨found, _, -, h⟩ := run_bind_eq_ok.mp h
    cases found with
    | none =>
      obtain ⟨_, _, -, h⟩ := run_bind_eq_ok.mp h
      cases h
      rfl
    | some type =>
      obtain ⟨_, _, -, h⟩ := run_bind_eq_ok.mp h
      obtain ⟨_, _, -, h⟩ := run_bind_eq_ok.mp h
      cases h

inductive Reached (c : ParseCall) : List Symbol → List Placement → Progress → Prop
  | start : Reached c [] [] (.initial c)
  | step {before : List Symbol} {done : List Placement} {p q : Progress} {x : Symbol}
      {m : Option Placement} (reached : Reached c before done p) (advances : Advances c p x m q) :
      Reached c (before ++ [x]) (done ++ m.toList) q

def Makes : List Placement → List Parameter → Prop :=
  List.Forall₂ fun m parameter => m.make = .ok parameter

theorem makes_toList {m : Option Placement} {made : Option Parameter}
    (h : m.map Placement.make = made.map .ok) : Makes m.toList made.toList := by
  cases m <;> cases made <;> simp_all [Makes]

theorem reached_of_decodeFrom {before : List Symbol} {done : List Placement}
    (reached : Reached c before done p) {xs : List (Symbol × List Char)} {ps : List Parameter}
    {last : Option Progress} (h : (decodeFrom c p xs).run project s = (.ok (ps, last), t)) :
    ∃ read more q, read <+: xs.map Prod.fst ∧ Reached c (before ++ read) (done ++ more) q ∧
      Makes more ps ∧ (last.isSome → read = xs.map Prod.fst ∧ last = some q) := by
  induction xs generalizing before done p s ps with
  | nil =>
    cases h
    refine ⟨[], [], p, nil_prefix, ?_, .nil, fun _ => ⟨rfl, rfl⟩⟩
    rwa [append_nil, append_nil]
  | cons x xs ih =>
    rw [decodeFrom] at h
    obtain ⟨⟨made, progress⟩, _, hx, h⟩ := run_bind_eq_ok.mp h
    cases progress with
    | none =>
      cases h
      cases made_of_run hx
      refine ⟨[], [], p, nil_prefix, ?_, .nil, by simp⟩
      rwa [append_nil, append_nil]
    | some q =>
      obtain ⟨⟨later, _⟩, _, hxs, h⟩ := run_bind_eq_ok.mp h
      cases h
      obtain ⟨m, advances, makes⟩ := advances_of_run hx
      obtain ⟨read, more, r, begins, reached, makesMore, whole⟩ := ih (reached.step advances) hxs
      refine ⟨x.1 :: read, m.toList ++ more, r, ?_, ?_, ?_, ?_⟩
      · exact cons_prefix_cons.mpr ⟨rfl, begins⟩
      · simpa only [append_assoc, singleton_append] using reached
      · exact rel_append (makes_toList makes) makesMore
      · intro ended
        obtain ⟨all, rfl⟩ := whole ended
        exact ⟨by rw [all, map_cons], rfl⟩

theorem reached_of_parameters {ps : List Parameter}
    (h : (parameters c).run project s = (.ok ps, t)) :
    ∃ read done q, read <+: (symbols c.format).map Prod.fst ∧ Reached c read done q ∧
      Makes done ps := by
  rw [parameters] at h
  obtain ⟨⟨ps, last⟩, _, h, hps⟩ := run_bind_eq_ok.mp h
  cases hps
  obtain ⟨read, done, q, begins, reached, makes, -⟩ := reached_of_decodeFrom .start h
  exact ⟨read, done, q, begins, reached, makes⟩

theorem reached_of_decodes {xs : List (Symbol × List Char)} {ps : List Parameter}
    (h : Decodes c project (.initial c) s xs ps q t) :
    ∃ done, Reached c (xs.map Prod.fst) done q ∧ Makes done ps := by
  obtain ⟨read, done, r, -, reached, makes, whole⟩ := reached_of_decodeFrom .start h
  obtain ⟨rfl, last⟩ := whole rfl
  cases last
  exact ⟨done, reached, makes⟩

end BindingStubs.Format
