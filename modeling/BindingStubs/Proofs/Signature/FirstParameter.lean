import BindingStubs.Method.Registered
import BindingStubs.Proofs.Signature.Merging
import Mathlib.Data.List.Forall2

set_option autoImplicit false

/-! # The first parameter of merged signatures -/

namespace BindingStubs

open List

theorem Parameter.name_ne_self_of_make {name : String} {kind : ParameterKind}
    {default : Option DefaultValue} {hint : Option TypeHint} {p : Parameter}
    (h : make name kind default hint = .ok p) (hname : name ≠ "self") : p.name ≠ "self" := by
  rw [(make_parts h).1, givenName]
  cases implicitNumber? name with
  | none => exact hname
  | some digits =>
    intro heq
    have hhead := congrArg (fun s => s.toList.head?) heq
    simp at hhead

namespace Signature

def Selfless (ps : List Parameter) : Prop := ∀ p ∈ ps, p.name ≠ "self"

instance (ps : List Parameter) : Decidable (Selfless ps) :=
  inferInstanceAs (Decidable (∀ p ∈ ps, p.name ≠ "self"))

section
variable {ps code doc : List Parameter} {p q : Parameter}

theorem selfless_cons : Selfless (p :: ps) ↔ p.name ≠ "self" ∧ Selfless ps :=
  forall_mem_cons

theorem adjustSelf_of_selfless (h : Selfless ps) : adjustSelf ps = ps := by
  match ps with
  | [] => rfl
  | [p] => simp [adjustSelf, h p mem_cons_self]
  | p :: q :: rest => simp [adjustSelf, h p mem_cons_self]

theorem name_ne_self_of_joinParameter {c d : Parameter} (hc : c.name ≠ "self")
    (hd : d.name ≠ "self") (h : joinParameter c d = .ok q) : q.name ≠ "self" := by
  obtain ⟨named, hnamed, h⟩ := Fault.bind_eq_ok.1 h
  obtain ⟨defaulted, hdefaulted, hhinted⟩ := Fault.bind_eq_ok.1 h
  have hname : named.name ≠ "self" := by
    rw [nameFrom] at hnamed
    split at hnamed
    · exact Parameter.name_ne_self_of_make hnamed hd
    · cases hnamed
      exact hc
  have hname' : defaulted.name ≠ "self" := by
    rw [defaultFrom] at hdefaulted
    split at hdefaulted
    · split at hdefaulted
      · exact Parameter.name_ne_self_of_make hdefaulted hname
      · cases hdefaulted
        exact hname
    · cases hdefaulted
      exact hname
  rw [hintFrom] at hhinted
  split at hhinted
  · exact Parameter.name_ne_self_of_make hhinted hname'
  · cases hhinted
    exact hname'

theorem Selfless.joinParameters (hcode : Selfless code) (hdoc : Selfless doc)
    (h : joinParameters code doc = .ok (some ps)) : Selfless ps := by
  induction code generalizing doc ps with
  | nil =>
    cases doc with
    | nil =>
      cases h
      exact forall_mem_nil _
    | cons d doc => cases h
  | cons c code ih =>
    obtain ⟨hc, hcode⟩ := selfless_cons.1 hcode
    cases doc with
    | nil =>
      rw [Signature.joinParameters] at h
      split at h
      · obtain ⟨found, hrest, h⟩ := Fault.bind_eq_ok.1 h
        obtain ⟨rest, rfl, rfl⟩ := Option.map_eq_some_iff.1 (Except.ok.inj h)
        exact selfless_cons.2 ⟨hc, ih hcode hdoc hrest⟩
      · cases h
    | cons d doc =>
      obtain ⟨hd, hdoc⟩ := selfless_cons.1 hdoc
      obtain ⟨q, hq, h⟩ := Fault.bind_eq_ok.1 h
      obtain ⟨found, hrest, h⟩ := Fault.bind_eq_ok.1 h
      obtain ⟨rest, rfl, rfl⟩ := Option.map_eq_some_iff.1 (Except.ok.inj h)
      exact selfless_cons.2 ⟨name_ne_self_of_joinParameter hc hd hq, ih hcode hdoc hrest⟩

theorem name_ne_self_of_mem_overlay (hcode : Selfless code) (hdoc : Selfless doc)
    (h : .ok q ∈ overlay code doc) : q.name ≠ "self" := by
  have hkept : ∀ ps : List Parameter, Selfless ps → .ok q ∈ ps.map (Except.ok (ε := Fault)) →
      q.name ≠ "self" := by
    intro ps hps hmem
    obtain ⟨p, hp, heq⟩ := mem_map.1 hmem
    cases heq
    exact hps q hp
  induction code generalizing doc with
  | nil =>
    cases doc with
    | nil => exact hkept [] hcode h
    | cons d doc => exact hkept (d :: doc) hdoc h
  | cons c code ih =>
    cases doc with
    | nil => exact hkept (c :: code) hcode h
    | cons d doc =>
      rw [overlay] at h
      split at h
      · exact hkept _ (forall_mem_append.2 ⟨hcode, hdoc⟩) h
      · rcases mem_cons.1 h with h | h
        · exact Parameter.name_ne_self_of_make h.symm (hdoc d mem_cons_self)
        · exact ih (selfless_cons.1 hcode).2 (selfless_cons.1 hdoc).2 h

theorem Selfless.collect_overlay (hcode : Selfless code) (hdoc : Selfless doc)
    (h : Fault.collect (overlay code doc) = .ok ps) : Selfless ps :=
  fun _ hq => name_ne_self_of_mem_overlay hcode hdoc (Fault.mem_of_mem_collect h hq)

end

/-- The same signature, or faults of one kind. -/
def SameStep : Except Fault Signature → Except Fault Signature → Prop
  | .ok s, .ok t => s = t
  | .error f, .error g => f.kind = g.kind
  | _, _ => False

theorem SameStep.refl (step : Except Fault Signature) : SameStep step step := by
  cases step <;> rfl

def insertedStep (m : Method) (p : Parameter) (step : Except Fault Signature) :
    Except Fault Signature := do
  let s ← step
  (← Method.insert { m with signature := some s } p).signed

section
variable {m : Method} {p : Parameter} {ps : List Parameter}

theorem insertedStep_ok (s : Signature) :
    insertedStep m p (.ok s) = s.withParameters (p :: s.parameters) := by
  change (Method.insert { m with signature := some s } p >>= Method.signed) = _
  change ((s.withParameters (p :: s.parameters) >>= _) >>= Method.signed) = _
  cases s.withParameters (p :: s.parameters) <;> rfl

theorem withParameters_eq (s : Signature) (ps : List Parameter) :
    s.withParameters ps = if Orderly ps then .ok (s.replaced ps)
      else .error (.signatureRefused (refusedText (adjustSelf ps))) := by
  by_cases h : Orderly ps
  · rw [if_pos h]
    exact (withParameters_eq_ok_iff s _ ps).2 ⟨h, rfl⟩
  · have hillegal : ¬ isLegal (adjustSelf ps) = true := by
      rwa [isLegal_iff, orderly_adjustSelf]
    rw [if_neg h, withParameters, change, make]
    exact if_neg hillegal

theorem sameStep_withParameters (s : Signature) (hps : Selfless ps) :
    SameStep (s.withParameters (p :: ps)) (insertedStep m p (s.withParameters ps)) := by
  by_cases horderly : Orderly ps
  · have hinner : s.withParameters ps = .ok (s.replaced ps) := by
      rw [withParameters_eq, if_pos horderly]
    have hparameters : (s.replaced ps).parameters = ps := adjustSelf_of_selfless hps
    rw [hinner, insertedStep_ok, hparameters]
    exact .refl _
  · have houter : ¬ Orderly (p :: ps) := fun h => horderly (orderly_cons.1 h).2.2
    rw [withParameters_eq s ps, withParameters_eq s (p :: ps), if_neg horderly, if_neg houter]
    rfl

theorem sameStep_joinStep {c d : Signature} (hc : Selfless c.parameters)
    (hd : Selfless d.parameters) :
    Option.Rel (fun led plain => SameStep led (insertedStep m p plain)) (joinStep [p] d c)
      (joinStep [] d c) := by
  rw [joinStep, joinStep]
  cases hjoined : joinParameters c.parameters d.parameters with
  | error f => exact .some rfl
  | ok found =>
    cases found with
    | none => exact .none
    | some ps => exact .some (sameStep_withParameters c (hc.joinParameters hd hjoined))

variable {code docs : List Signature}

/-- Steps taken with a leading parameter, and steps into whose signatures it is inserted. -/
def AlikeSteps (m : Method) (p : Parameter) (led plain : List (Except Fault Signature)) : Prop :=
  List.Forall₂ (fun led plain => SameStep led (insertedStep m p plain)) led plain

theorem alikeSteps_withDocumented {d : Signature} (hcode : ∀ c ∈ code, Selfless c.parameters)
    (hd : Selfless d.parameters) :
    AlikeSteps m p (withDocumented code [p] d) (withDocumented code [] d) := by
  have hjoined : AlikeSteps m p (code.filterMap (joinStep [p] d))
      (code.filterMap (joinStep [] d)) := by
    refine rel_filterMap (R := fun c e => c = e ∧ c ∈ code) ?_
      (forall₂_same.2 fun c hc => ⟨rfl, hc⟩)
    rintro c _ ⟨rfl, hc⟩
    exact sameStep_joinStep (hcode c hc) hd
  rw [withDocumented, withDocumented]
  by_cases hnone : code.filterMap (joinStep [p] d) = []
  · have hnone' : code.filterMap (joinStep [] d) = [] := by
      rw [AlikeSteps, hnone] at hjoined
      exact forall₂_nil_left_iff.1 hjoined
    rw [hnone, hnone']
    exact .cons (sameStep_withParameters d hd) .nil
  · have hnone' : code.filterMap (joinStep [] d) ≠ [] := by
      intro h
      rw [AlikeSteps, h] at hjoined
      exact hnone (forall₂_nil_right_iff.1 hjoined)
    simp only [List.isEmpty_iff, if_neg hnone, if_neg hnone']
    exact hjoined

theorem alikeSteps_joinSteps (hcode : ∀ c ∈ code, Selfless c.parameters)
    (hdocs : ∀ d ∈ docs, Selfless d.parameters) :
    AlikeSteps m p (joinSteps code docs [p]) (joinSteps code docs []) := by
  refine rel_append ?_ ?_
  · refine rel_flatMap (R := fun d e => d = e ∧ d ∈ docs)
      (forall₂_same.2 fun d hd => ⟨rfl, hd⟩) ?_
    rintro d _ ⟨rfl, hd⟩
    exact alikeSteps_withDocumented hcode (hdocs d hd)
  · rw [forall₂_map_left_iff, forall₂_map_right_iff, forall₂_same]
    intro c hc
    exact sameStep_withParameters c (hcode c (mem_of_mem_filter hc))

theorem alikeSteps_overlaySteps {c : Signature} (hc : Selfless c.parameters)
    (hdocs : ∀ d ∈ docs, Selfless d.parameters) :
    AlikeSteps m p (overlaySteps c docs [p]) (overlaySteps c docs []) := by
  rw [AlikeSteps, overlaySteps, overlaySteps, forall₂_map_left_iff,
    forall₂_map_right_iff, forall₂_same]
  intro d hd
  cases hps : Fault.collect (overlay c.parameters d.parameters) with
  | error f => exact rfl
  | ok ps => exact sameStep_withParameters c (hc.collect_overlay (hdocs d hd) hps)

theorem alikeSteps_mergeSteps (hcode : ∀ c ∈ code, Selfless c.parameters)
    (hdocs : ∀ d ∈ docs, Selfless d.parameters) :
    AlikeSteps m p (mergeSteps code docs (some p)) (mergeSteps code docs none) := by
  by_cases hoverlay : IsOverlay code docs
  · obtain ⟨hne, c, rfl, hunknown⟩ := hoverlay
    rw [mergeSteps_of_overlay hne hunknown, mergeSteps_of_overlay hne hunknown]
    exact alikeSteps_overlaySteps (hcode c mem_cons_self) hdocs
  · rw [mergeSteps_of_join hoverlay, mergeSteps_of_join hoverlay]
    exact alikeSteps_joinSteps hcode hdocs

theorem untilFault_of_sameSteps {steps others : List (Except Fault Signature)}
    (h : List.Forall₂ SameStep steps others) :
    (Fault.untilFault steps).1 = (Fault.untilFault others).1 ∧
      (Fault.untilFault steps).2.map Fault.kind = (Fault.untilFault others).2.map Fault.kind := by
  induction h with
  | nil => exact ⟨rfl, rfl⟩
  | @cons step other steps others hstep _ ih =>
    cases step with
    | error f =>
      cases other with
      | error g => exact ⟨rfl, congrArg some hstep⟩
      | ok t => exact absurd hstep id
    | ok s =>
      cases other with
      | error g => exact absurd hstep id
      | ok t =>
        obtain rfl : s = t := hstep
        exact ⟨congrArg (s :: ·) ih.1, ih.2⟩

end

/-- Leading the signatures of a merge by a parameter, and inserting it into the signature of a
method after each step of a merge without it, is the same at every place: the same signature, or a
fault of the same kind. So the two runs deliver the same signatures and break off together. -/
theorem merge_led_eq_inserted (code docs : List Signature) (p : Parameter) (m : Method)
    (hcode : ∀ c ∈ code, Selfless c.parameters) (hdocs : ∀ d ∈ docs, Selfless d.parameters) :
    let inserted := (mergeSteps code docs none).map (insertedStep m p)
    List.Forall₂ SameStep (mergeSteps code docs (some p)) inserted ∧
      (merge code docs (some p)).1 = (Fault.untilFault inserted).1 ∧
      (merge code docs (some p)).2.map Fault.kind =
        (Fault.untilFault inserted).2.map Fault.kind := by
  have hsteps : List.Forall₂ SameStep (mergeSteps code docs (some p))
      ((mergeSteps code docs none).map (insertedStep m p)) :=
    forall₂_map_right_iff.2 (alikeSteps_mergeSteps hcode hdocs)
  exact ⟨hsteps, untilFault_of_sameSteps hsteps⟩

def ringCode : List Signature :=
  [ { parameters := [
        { name := "arg1", kind := .positional }, { name := "radius", kind := .positional }] } ]

def ringDocs : List Signature :=
  [ { parameters := [{ name := "size", kind := .flexible }] },
    { parameters := [
        { name := "radius", kind := .positional }, { name := "center", kind := .positional }] } ]

def ringMethod : Method :=
  { form := .called, arguments := [], name := "ring", cppClass := "", function := "ring" }

theorem merge_led_eq_inserted_ring :
    ((∀ c ∈ ringCode, Selfless c.parameters) ∧ ∀ d ∈ ringDocs, Selfless d.parameters) ∧
      let inserted := (mergeSteps ringCode ringDocs none).map (insertedStep ringMethod .self)
      (Fault.untilFault inserted).1.map (fun s => s.parameters.map fun p => (p.name, p.kind)) =
          [[("self", .flexible), ("size", .flexible)]] ∧
        (Fault.untilFault inserted).2.map Fault.kind = some .value := by
  have hcode : ∀ c ∈ ringCode, Selfless c.parameters := by decide
  have hdocs : ∀ d ∈ ringDocs, Selfless d.parameters := by decide
  have h := merge_led_eq_inserted ringCode ringDocs .self ringMethod hcode hdocs
  refine ⟨⟨hcode, hdocs⟩, ?_⟩
  dsimp only at h ⊢
  rw [← h.2.1, ← h.2.2]
  decide

end Signature

end BindingStubs
