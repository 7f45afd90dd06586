import BindingStubs.Signature.Basic
import Mathlib.Data.List.Nodup
import Mathlib.Data.List.Pairwise

set_option autoImplicit false

/-! # Valid parameters and signatures -/

namespace BindingStubs

open List

namespace Parameter

/-- A parameter whose name, kind and default fit together. -/
structure IsValid (p : Parameter) : Prop where
  bare : p.kind = .varPositional ∨ p.kind = .varKeyword → p.default = none
  identifier : Text.isIdentifier p.name = true
  keyword : Text.isKeyword p.name = true → p.kind = .positional

instance (p : Parameter) : Decidable p.IsValid :=
  decidable_of_iff ((p.kind = .varPositional ∨ p.kind = .varKeyword → p.default.isNone = true) ∧
      Text.isIdentifier p.name = true ∧ (Text.isKeyword p.name = true → p.kind = .positional))
    ⟨fun ⟨h₁, h₂, h₃⟩ => ⟨fun h => Option.isNone_iff_eq_none.1 (h₁ h), h₂, h₃⟩,
      fun ⟨h₁, h₂, h₃⟩ => ⟨fun h => Option.isNone_iff_eq_none.2 (h₁ h), h₂, h₃⟩⟩

theorem implicitNumber?_of_identifier {name : String} (h : Text.isIdentifier name = true) :
    implicitNumber? name = none := by
  rw [Text.isIdentifier] at h
  rw [implicitNumber?]
  split
  next rest hname =>
    rw [hname, Text.isName, Bool.and_eq_true] at h
    exact absurd h.1 (by decide)
  next => rfl

theorem not_isEmpty_of_identifier {name : String} (h : Text.isIdentifier name = true) :
    name.isEmpty = false := by
  rw [Text.isIdentifier] at h
  by_contra hempty
  rw [Bool.not_eq_false, String.isEmpty_iff] at hempty
  rw [hempty] at h
  exact absurd h (by decide)

theorem make_of_identifier {name : String} (h : Text.isIdentifier name = true)
    (kind : ParameterKind) (default : Option DefaultValue) (hint : Option TypeHint) :
    make name kind default hint =
      if (default.isSome ∧ (kind = .varPositional ∨ kind = .varKeyword)) ∨
          (Text.isKeyword name = true ∧ kind ≠ .positional)
      then .error .badParameter
      else .ok { name, kind, default, hint } := by
  rw [make, not_isEmpty_of_identifier h, implicitNumber?_of_identifier h, h]
  by_cases hbare : default.isSome ∧ (kind = .varPositional ∨ kind = .varKeyword)
  · simp [hbare]
  · by_cases hkeyword : Text.isKeyword name = true ∧ kind ≠ .positional
    · simp [hkeyword]
    · rw [if_neg (not_or.2 ⟨hbare, hkeyword⟩), if_neg (by simpa using hbare)]
      simp only [Bool.false_eq_true, ↓reduceIte, Bool.not_true, Bool.or_false]
      rw [if_neg (by simpa using hkeyword)]

theorem IsValid.make_eq {p : Parameter} (h : p.IsValid) :
    make p.name p.kind p.default p.hint = .ok p := by
  rw [make_of_identifier h.identifier, if_neg]
  rintro (⟨hsome, hkind⟩ | ⟨hkeyword, hkind⟩)
  · rw [h.bare hkind] at hsome
    exact absurd hsome (by decide)
  · exact hkind (h.keyword hkeyword)

def givenName (name : String) : String := ((implicitNumber? name).map ("implicit" ++ ·)).getD name

theorem make_parts {name : String} {kind : ParameterKind} {default : Option DefaultValue}
    {hint : Option TypeHint} {p : Parameter} (h : make name kind default hint = .ok p) :
    p.name = givenName name ∧ p.default = default ∧ p.hint = hint ∧
      p.kind = if (implicitNumber? name).isSome then .positional else kind := by
  rw [make] at h
  split at h
  · cases h
  split at h
  · cases h
  rw [givenName]
  split at h
  next digits implicit =>
    rw [implicit]
    split at h <;> cases h
    exact ⟨rfl, rfl, rfl, rfl⟩
  next explicit =>
    rw [explicit]
    split at h <;> cases h
    exact ⟨rfl, rfl, rfl, rfl⟩

/-- What the order of parameters depends on: the kind, and whether there is a default. -/
def outline (p : Parameter) : ParameterKind × Bool := (p.kind, p.default.isSome)

end Parameter

namespace Signature

def MayPrecede (a b : ParameterKind × Bool) : Prop :=
  a.1.rank ≤ b.1.rank ∧
    (isPositional a.1 = true → a.2 = true → isPositional b.1 = true → b.2 = true)

instance (a b : ParameterKind × Bool) : Decidable (MayPrecede a b) :=
  inferInstanceAs (Decidable (_ ∧ _))

structure Orderly (ps : List Parameter) : Prop where
  outlines : (ps.map Parameter.outline).Pairwise MayPrecede
  names : (ps.map Parameter.name).Nodup

theorem orderly_nil : Orderly [] := ⟨List.Pairwise.nil, nodup_nil⟩

theorem orderly_cons {p : Parameter} {ps : List Parameter} :
    Orderly (p :: ps) ↔ (∀ q ∈ ps, MayPrecede p.outline q.outline) ∧
      p.name ∉ ps.map Parameter.name ∧ Orderly ps := by
  constructor
  · rintro ⟨houtlines, hnames⟩
    rw [map_cons, pairwise_cons] at houtlines
    rw [map_cons, nodup_cons] at hnames
    refine ⟨fun q hq => houtlines.1 _ (mem_map_of_mem hq), hnames.1, houtlines.2, hnames.2⟩
  · rintro ⟨hfirst, hname, hrest⟩
    refine ⟨?_, ?_⟩
    · rw [map_cons, pairwise_cons]
      refine ⟨fun a ha => ?_, hrest.outlines⟩
      obtain ⟨q, hq, rfl⟩ := mem_map.1 ha
      exact hfirst q hq
    · rw [map_cons, nodup_cons]
      exact ⟨hname, hrest.names⟩

theorem legalFrom_iff (top : Nat) (defaulted : Bool) (seen : List String) (ps : List Parameter) :
    legalFrom top defaulted seen ps = true ↔
      (∀ p ∈ ps, top ≤ p.kind.rank) ∧
      (defaulted = true → ∀ p ∈ ps, isPositional p.kind = true → p.default.isSome = true) ∧
      (∀ p ∈ ps, p.name ∉ seen) ∧ Orderly ps := by
  induction ps generalizing top defaulted seen with
  | nil => simp [legalFrom, orderly_nil]
  | cons p ps ih =>
    rw [legalFrom, Bool.and_eq_true, Bool.and_eq_true, Bool.and_eq_true, ih, orderly_cons,
      forall_mem_cons, forall_mem_cons, forall_mem_cons]
    simp only [decide_eq_true_eq, Bool.not_eq_true', Bool.and_eq_false_iff, Bool.or_eq_true,
      Bool.and_eq_true, contains_eq_mem, decide_eq_false_iff_not,
      Option.isNone_eq_false_iff]
    constructor
    · rintro ⟨⟨⟨htop, hrequired⟩, hseen⟩, hranks, hdefaults, hnames, horderly⟩
      refine ⟨⟨htop, fun q hq => Nat.le_trans htop (hranks q hq)⟩, fun hdefaulted => ⟨?_, ?_⟩,
        ⟨hseen, fun q hq hmem => hnames q hq (mem_cons_of_mem _ hmem)⟩,
        fun q hq => ⟨hranks q hq, fun hp hsome => hdefaults (.inr ⟨hp, hsome⟩) q hq⟩, ?_, horderly⟩
      · intro hp
        simpa [hp, hdefaulted] using hrequired
      · exact hdefaults (.inl hdefaulted)
      · intro hmem
        obtain ⟨q, hq, heq⟩ := mem_map.1 hmem
        exact hnames q hq (heq ▸ mem_cons_self)
    · rintro ⟨⟨htop, _⟩, hdefaults, ⟨hseen, hnames⟩, hfirst, hname, horderly⟩
      refine ⟨⟨⟨htop, ?_⟩, hseen⟩, fun q hq => (hfirst q hq).1, ?_, ?_, horderly⟩
      · cases hdefaulted : defaulted
        · exact .inr rfl
        cases hp : isPositional p.kind
        · exact .inl (.inl rfl)
        · exact .inl (.inr ((hdefaults hdefaulted).1 hp))
      · rintro (hdefaulted | ⟨hp, hsome⟩) q hq
        · exact (hdefaults hdefaulted).2 q hq
        · exact (hfirst q hq).2 hp hsome
      · intro q hq hmem
        rcases mem_cons.1 hmem with heq | hmem
        · exact hname (mem_map.2 ⟨q, hq, heq⟩)
        · exact hnames q hq hmem

theorem isLegal_iff (ps : List Parameter) : isLegal ps = true ↔ Orderly ps := by
  rw [isLegal, legalFrom_iff]
  simp

instance (ps : List Parameter) : Decidable (Orderly ps) := decidable_of_iff _ (isLegal_iff ps)

theorem mayPrecede_flexible {q : Parameter} {rest : List Parameter} (hq : q.kind = .flexible)
    (horderly : Orderly (q :: rest)) (defaulted : Bool) :
    (∀ r ∈ q :: rest, MayPrecede (.flexible, defaulted) r.outline) ↔
      ∀ r ∈ q :: rest, MayPrecede (.positional, defaulted) r.outline := by
  have hranks : ∀ r ∈ q :: rest, 1 ≤ r.kind.rank := by
    intro r hr
    rcases mem_cons.1 hr with rfl | hr
    · rw [hq]
      exact Nat.le_refl 1
    · have h := ((orderly_cons.1 horderly).1 r hr).1
      rw [Parameter.outline, hq] at h
      exact h
  constructor
  · intro h r hr
    exact ⟨Nat.zero_le _, fun _ => (h r hr).2 rfl⟩
  · intro h r hr
    exact ⟨hranks r hr, fun _ => (h r hr).2 rfl⟩

theorem orderly_adjustSelf (ps : List Parameter) : Orderly (adjustSelf ps) ↔ Orderly ps := by
  match ps with
  | [] => exact Iff.rfl
  | [p] =>
    rw [adjustSelf]
    split
    · simp [orderly_cons]
    · exact Iff.rfl
  | p :: q :: rest =>
    rw [adjustSelf]
    split
    next h =>
      simp only [Bool.and_eq_true, beq_iff_eq] at h
      rw [orderly_cons, orderly_cons (p := p)]
      apply and_congr_left
      rintro ⟨_, horderly⟩
      simpa only [Parameter.outline, h.1.2] using
        mayPrecede_flexible h.2 horderly p.default.isSome
    next => exact Iff.rfl

/-- A signature that can be made from parameters that can be made. -/
structure IsValid (s : Signature) : Prop where
  parameters : ∀ p ∈ s.parameters, p.IsValid
  orderly : Orderly s.parameters

instance (s : Signature) : Decidable s.IsValid :=
  decidable_of_iff ((∀ p ∈ s.parameters, p.IsValid) ∧ Orderly s.parameters)
    ⟨fun ⟨h₁, h₂⟩ => ⟨h₁, h₂⟩, fun ⟨h₁, h₂⟩ => ⟨h₁, h₂⟩⟩

def replaced (s : Signature) (ps : List Parameter) : Signature :=
  { s with parameters := adjustSelf ps }

theorem make_eq_ok_iff {ps : List Parameter} {returns : Option TypeHint} {exceptions : NameSet}
    {unknown : Bool} {s : Signature} :
    make ps returns exceptions unknown = .ok s ↔
      Orderly ps ∧ s = ⟨adjustSelf ps, returns, exceptions, unknown⟩ := by
  rw [make, ← orderly_adjustSelf, ← isLegal_iff]
  by_cases h : isLegal (adjustSelf ps) = true
  · rw [if_pos h, Except.ok.injEq]
    exact ⟨fun heq => ⟨h, heq.symm⟩, fun heq => heq.2.symm⟩
  · rw [if_neg h]
    exact ⟨fun heq => (by cases heq), fun heq => absurd heq.1 h⟩

theorem withParameters_eq_ok_iff (s t : Signature) (ps : List Parameter) :
    s.withParameters ps = .ok t ↔ Orderly ps ∧ t = s.replaced ps := by
  rw [withParameters, change, make_eq_ok_iff]
  rfl

theorem exists_ofParameters_iff (ps : List Parameter) :
    (∃ s, ofParameters ps = .ok s) ↔ Orderly ps := by
  simp only [ofParameters, make_eq_ok_iff, exists_and_left, exists_eq, and_true]

theorem orderly_replaced {s : Signature} {ps : List Parameter} (h : Orderly ps) :
    Orderly (s.replaced ps).parameters :=
  (orderly_adjustSelf ps).2 h

theorem adjustSelf_adjustSelf (ps : List Parameter) :
    adjustSelf (adjustSelf ps) = adjustSelf ps := by
  match ps with
  | [] => rfl
  | [p] =>
    rw [adjustSelf]
    split
    · simp [adjustSelf]
    · next h => rw [adjustSelf, if_neg h]
  | p :: q :: rest =>
    rw [adjustSelf]
    split
    · simp [adjustSelf]
    · next h => rw [adjustSelf, if_neg h]

def IsMade (s : Signature) : Prop :=
  ∃ ps returns exceptions unknown, make ps returns exceptions unknown = .ok s

theorem IsMade.parameters {s : Signature} (h : s.IsMade) :
    Orderly s.parameters ∧ adjustSelf s.parameters = s.parameters := by
  obtain ⟨ps, _, _, _, h⟩ := h
  obtain ⟨horderly, rfl⟩ := make_eq_ok_iff.1 h
  exact ⟨(orderly_adjustSelf ps).2 horderly, adjustSelf_adjustSelf ps⟩

/-- Parameters that a change supplies: in a list, by name, or none at all. -/
inductive Supplied where
  | listed (ps : List Parameter)
  | named (entries : List (String × Parameter))
  | nothing

def Supplied.parameters : Supplied → List Parameter
  | listed ps => ps
  | named entries => entries.map Prod.snd
  | nothing => []

section
variable {s : Signature} (hs : s.IsMade) (supplied : Option Supplied)
  (returns : Option TypeHint) (exceptions : Option NameSet) (unknown : Option Bool)

/-- What is supplied, with a leading `self` adjusted, and all else from a signature. -/
def supply (s : Signature) : Signature where
  parameters := supplied.elim s.parameters fun new => adjustSelf new.parameters
  returns := returns.elim s.returns some
  exceptions := exceptions.getD s.exceptions
  unknown := unknown.getD s.unknown

include hs

theorem change_eq_ok_iff (t : Signature) :
    s.change { parameters := supplied.map (·.parameters), returns, exceptions, unknown } = .ok t ↔
      (∀ new ∈ supplied, Orderly new.parameters) ∧
        t = s.supply supplied returns exceptions unknown := by
  obtain ⟨horderly, hself⟩ := hs.parameters
  rw [change, make_eq_ok_iff]
  cases supplied <;> cases returns <;> simp [supply, horderly, hself]

/-- A change of a signature that was made is refused exactly if it supplies parameters in an order
that is not legal. Else the result has what is supplied and all else from the signature. A change
that supplies nothing gives the same signature, and to repeat a change changes nothing. -/
theorem change_keeps_rest :
    let c : Change :=
      { parameters := supplied.map (·.parameters), returns, exceptions, unknown }
    (∀ t, s.change c = .ok t ↔ (∀ new ∈ supplied, Orderly new.parameters) ∧
      t = s.supply supplied returns exceptions unknown) ∧
    s.change {} = .ok s ∧ ∀ t, s.change c = .ok t → t.change c = .ok t := by
  intro c
  have hchange := change_eq_ok_iff hs supplied returns exceptions unknown
  refine ⟨hchange, ?_, fun t ht => ?_⟩
  · exact (change_eq_ok_iff hs none none none none s).2 ⟨by simp, rfl⟩
  · obtain ⟨hnew, hresult⟩ := (hchange t).1 ht
    have hagain : t = t.supply supplied returns exceptions unknown := by
      rw [hresult]
      cases supplied <;> cases returns <;> cases exceptions <;> cases unknown <;> rfl
    exact (change_eq_ok_iff ⟨_, _, _, _, ht⟩ _ _ _ _ t).2 ⟨hnew, hagain⟩

end

/-- Parameters with a leading `self` are supplied twice by name, and all else stays. -/
theorem change_keeps_rest_named :
    let flexible (name : String) : Parameter := { name, kind := .flexible }
    let s : Signature := { exceptions := .ofList ["KeyError"], unknown := true }
    let c : Change := { parameters := some [.self, flexible "a"] }
    let t : Signature := { s with parameters := [flexible "self", flexible "a"] }
    s.change c = .ok t ∧ t.change c = .ok t := by
  intro flexible s c t
  have hs : s.IsMade := ⟨[], none, .ofList ["KeyError"], true, rfl⟩
  have h := change_keeps_rest hs (some (.named [("self", .self), ("a", flexible "a")])) none none none
  have ht : s.change c = .ok t := (h.1 t).2 ⟨by rintro _ ⟨⟩; decide, rfl⟩
  exact ⟨ht, h.2.2 t ht⟩

end Signature

end BindingStubs
