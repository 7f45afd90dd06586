import BindingStubs.Proofs.Signature.Matching
import BindingStubs.Proofs.Steps

set_option autoImplicit false

/-! # What merging gives, and when it is refused -/

namespace BindingStubs.Signature

open List

def relabel (c d : Parameter) : Parameter :=
  { c with name := d.name, default := (offered? d).or c.default }

/-- A keyword where none is allowed, or a default where none is possible. -/
def OverlayRefuses (c d : Parameter) : Prop :=
  ((offered? d).isSome = true ∧ (c.kind = .varPositional ∨ c.kind = .varKeyword)) ∨
    (Text.isKeyword d.name = true ∧ c.kind ≠ .positional)

instance (c d : Parameter) : Decidable (OverlayRefuses c d) :=
  inferInstanceAs (Decidable (_ ∨ _))

/-- The documented parameters that give a name to code parameters. -/
def naming (doc : List Parameter) : List Parameter :=
  doc.takeWhile fun d => d.kind != .varPositional

def OverlayRefusesAny (code doc : List Parameter) : Prop :=
  ∃ pair ∈ code.zip (naming doc), OverlayRefuses pair.1 pair.2

instance (code doc : List Parameter) : Decidable (OverlayRefusesAny code doc) :=
  inferInstanceAs (Decidable (∃ pair ∈ code.zip (naming doc), _))

def overlaid (code doc : List Parameter) : List Parameter :=
  List.zipWith relabel code (naming doc) ++ code.drop (naming doc).length ++
    doc.drop (min code.length (naming doc).length)

theorem withNameAndDefault_eq {c d : Parameter} (hc : c.IsValid) (hd : d.IsValid) :
    c.withNameAndDefault d.name ((offered? d).or c.default) =
      if OverlayRefuses c d then .error .badParameter else .ok (relabel c d) := by
  have hbare : (((offered? d).or c.default).isSome = true ∧
      (c.kind = .varPositional ∨ c.kind = .varKeyword)) ↔
      ((offered? d).isSome = true ∧ (c.kind = .varPositional ∨ c.kind = .varKeyword)) := by
    apply and_congr_left
    intro hkind
    rw [hc.bare hkind, Option.or_none]
  rw [Parameter.withNameAndDefault, Parameter.make_of_identifier hd.identifier]
  simp only [hbare]
  rfl

theorem naming_cons_of_rest {d : Parameter} (h : d.kind = .varPositional)
    (doc : List Parameter) : naming (d :: doc) = [] := by
  simp [naming, h]

theorem naming_cons {d : Parameter} (h : d.kind ≠ .varPositional) (doc : List Parameter) :
    naming (d :: doc) = d :: naming doc := by
  simp [naming, h]

theorem overlayRefusesAny_cons {d : Parameter} (h : d.kind ≠ .varPositional) (c : Parameter)
    (code doc : List Parameter) :
    OverlayRefusesAny (c :: code) (d :: doc) ↔
      OverlayRefuses c d ∨ OverlayRefusesAny code doc := by
  simp [OverlayRefusesAny, naming_cons h]

theorem overlaid_cons {d : Parameter} (h : d.kind ≠ .varPositional) (c : Parameter)
    (code doc : List Parameter) :
    overlaid (c :: code) (d :: doc) = relabel c d :: overlaid code doc := by
  simp [overlaid, naming_cons h]

theorem collect_overlay {code doc : List Parameter} (hcode : ∀ p ∈ code, p.IsValid)
    (hdoc : ∀ p ∈ doc, p.IsValid) :
    Fault.collect (overlay code doc) =
      if OverlayRefusesAny code doc then .error .badParameter else .ok (overlaid code doc) := by
  induction code, doc using overlay.induct with
  | case1 code =>
    rw [overlay, Fault.collect_map_ok, if_neg (by simp [OverlayRefusesAny, naming])]
    simp [overlaid, naming]
  | case2 doc hne =>
    rw [overlay, Fault.collect_map_ok, if_neg (by simp [OverlayRefusesAny])]
    · simp [overlaid]
    · exact hne
  | case3 c code d doc hrest =>
    have hrest' : d.kind = .varPositional := by simpa using hrest
    rw [overlay, if_pos hrest, Fault.collect_map_ok,
      if_neg (by simp [OverlayRefusesAny, naming_cons_of_rest hrest'])]
    simp [overlaid, naming_cons_of_rest hrest']
  | case4 c code d doc hrest ih =>
    have hrest' : d.kind ≠ .varPositional := by simpa using hrest
    have hlater := ih (fun p hp => hcode p (mem_cons_of_mem _ hp))
      (fun p hp => hdoc p (mem_cons_of_mem _ hp))
    rw [overlay, if_neg hrest, withNameAndDefault_eq (hcode c mem_cons_self)
      (hdoc d mem_cons_self), overlaid_cons hrest']
    simp only [overlayRefusesAny_cons hrest']
    by_cases hfirst : OverlayRefuses c d
    · rw [if_pos hfirst, if_pos (.inl hfirst)]
      rfl
    · rw [if_neg hfirst, Fault.collect_cons_ok, hlater]
      by_cases hmore : OverlayRefusesAny code doc
      · rw [if_pos hmore, if_pos (.inr hmore)]
        rfl
      · rw [if_neg hmore, if_neg (not_or.2 ⟨hfirst, hmore⟩)]
        rfl

theorem name_mem_of_mem_overlaid {code doc : List Parameter} {p : Parameter}
    (h : p ∈ overlaid code doc) :
    p.name ∈ code.map Parameter.name ∨ p.name ∈ doc.map Parameter.name := by
  rw [overlaid, mem_append, mem_append] at h
  rcases h with (h | h) | h
  · obtain ⟨i, hi, rfl⟩ := mem_iff_getElem.1 h
    have hdoc : i < (naming doc).length := by
      rw [length_zipWith] at hi
      omega
    rw [getElem_zipWith]
    have hmem : (naming doc)[i] ∈ doc := (takeWhile_sublist _).subset (getElem_mem hdoc)
    exact .inr (mem_map.2 ⟨_, hmem, rfl⟩)
  · exact .inl (mem_map_of_mem (mem_of_mem_drop h))
  · exact .inr (mem_map_of_mem (mem_of_mem_drop h))

def joinedWith (lead : List Parameter) (d c : Signature) : Signature :=
  c.replaced (lead ++ completeAll c.parameters d.parameters)

def led (lead : List Parameter) (s : Signature) : Signature := s.replaced (lead ++ s.parameters)

def fitting (code : List Signature) (d : Signature) : List Signature :=
  code.filter fun c => Fits c.parameters d.parameters

def documented (code : List Signature) (lead : List Parameter) (d : Signature) : List Signature :=
  if fitting code d = [] then [led lead d] else (fitting code d).map (joinedWith lead d)

def undocumented (code docs : List Signature) : List Signature :=
  code.filter fun c => ∀ d ∈ docs, ¬ Fits c.parameters d.parameters

/-- A single code signature with unknown parameters takes those of every documented one. -/
def IsOverlay (code docs : List Signature) : Prop :=
  docs ≠ [] ∧ ∃ c, code = [c] ∧ c.unknown = true

def overlaidWith (lead : List Parameter) (c d : Signature) : Signature :=
  c.replaced (lead ++ overlaid c.parameters d.parameters)

def Joins (lead : List Parameter) (d c : Signature) : Prop :=
  ¬ RefusesAny c.parameters d.parameters ∧
    (Fits c.parameters d.parameters →
      Orderly (lead ++ completeAll c.parameters d.parameters))

variable {code docs : List Signature} {lead : List Parameter} {c d : Signature}

theorem joinStep_eq (hc : c.IsValid) (hd : d.IsValid) :
    joinStep lead d c =
      if RefusesAny c.parameters d.parameters then some (.error .badParameter)
      else if Fits c.parameters d.parameters then
        some (c.withParameters (lead ++ completeAll c.parameters d.parameters))
      else none := by
  rw [joinStep, joinParameters_eq hc.parameters hd.parameters]
  by_cases hrefuses : RefusesAny c.parameters d.parameters
  · rw [if_pos hrefuses, if_pos hrefuses]
  · rw [if_neg hrefuses, if_neg hrefuses]
    by_cases hfits : Fits c.parameters d.parameters
    · rw [if_pos hfits, if_pos hfits]
    · rw [if_neg hfits, if_neg hfits]

theorem delivers_joinStep (hc : c.IsValid) (hd : d.IsValid) :
    Fault.Delivers (joinStep lead d c).toList (Joins lead d c)
      ((fitting [c] d).map (joinedWith lead d)) := by
  rw [joinStep_eq hc hd]
  by_cases hrefuses : RefusesAny c.parameters d.parameters
  · rw [if_pos hrefuses]
    refine ⟨fun h => absurd hrefuses h.1, fun hok => ?_⟩
    obtain ⟨a, ha⟩ := hok _ mem_cons_self
    cases ha
  · rw [if_neg hrefuses]
    by_cases hfits : Fits c.parameters d.parameters
    · rw [if_pos hfits, fitting, filter_cons_of_pos (by simpa using hfits)]
      refine (Fault.Delivers.single (withParameters_eq_ok_iff c · _)).congr ?_ fun _ => rfl
      exact ⟨fun h => ⟨hrefuses, fun _ => h⟩, fun h => h.2 hfits⟩
    · rw [if_neg hfits, fitting, filter_cons_of_neg (by simpa using hfits)]
      exact Fault.Delivers.nil.congr
        ⟨fun _ => ⟨hrefuses, fun h => absurd h hfits⟩, fun _ => trivial⟩ fun _ => rfl

theorem delivers_attempts (lead : List Parameter) (hcode : ∀ c ∈ code, c.IsValid)
    (hd : d.IsValid) :
    Fault.Delivers (code.filterMap (joinStep lead d)) (∀ c ∈ code, Joins lead d c)
      ((fitting code d).map (joinedWith lead d)) := by
  induction code with
  | nil => exact Fault.Delivers.nil.congr (by simp) fun _ => rfl
  | cons c code ih =>
    obtain ⟨hc, hrest⟩ := forall_mem_cons.1 hcode
    have hsplit : (c :: code).filterMap (joinStep lead d) =
        (joinStep lead d c).toList ++ code.filterMap (joinStep lead d) := by
      rw [filterMap_cons]
      cases joinStep lead d c <;> rfl
    have hfitting : fitting (c :: code) d = fitting [c] d ++ fitting code d := by
      rw [fitting, fitting, fitting, ← filter_append, singleton_append]
    rw [hsplit, hfitting, map_append]
    exact ((delivers_joinStep hc hd).append (ih hrest)).congr forall_mem_cons.symm
      fun _ => rfl

theorem delivers_withDocumented (hcode : ∀ c ∈ code, c.IsValid) (hd : d.IsValid) :
    Fault.Delivers (withDocumented code lead d)
      ((∀ c ∈ code, Joins lead d c) ∧ (fitting code d = [] → Orderly (lead ++ d.parameters)))
      (documented code lead d) := by
  have hjoined := delivers_attempts lead hcode hd
  rw [withDocumented, documented]
  simp only [List.isEmpty_iff]
  by_cases hnone : code.filterMap (joinStep lead d) = []
  · have hall : ∀ c ∈ code, Joins lead d c := by
      apply hjoined.of_allOk
      rw [hnone]
      exact fun step hstep => absurd hstep not_mem_nil
    have hfitting : fitting code d = [] := by
      have h := hjoined.steps_eq hall
      rw [hnone, map_map] at h
      exact map_eq_nil_iff.1 h.symm
    rw [if_pos hnone, if_pos hfitting]
    refine (Fault.Delivers.single (withParameters_eq_ok_iff d · _)).congr ?_ fun _ => rfl
    exact ⟨fun h => ⟨hall, fun _ => h⟩, fun h => h.2 hfitting⟩
  · have hsome : (∀ c ∈ code, Joins lead d c) → fitting code d ≠ [] := by
      intro hall hempty
      have h := hjoined.steps_eq hall
      rw [hempty] at h
      exact hnone h
    rw [if_neg hnone]
    refine hjoined.congr ⟨fun h => ⟨h, fun hempty => absurd hempty (hsome h)⟩, fun h => h.1⟩ ?_
    intro h
    rw [if_neg (hsome h.1)]

theorem fitsAny_iff (hc : c.IsValid) (hdocs : ∀ d ∈ docs, d.IsValid)
    (haccepted : ∀ d ∈ docs, ¬ RefusesAny c.parameters d.parameters) :
    fitsAny docs c = true ↔ ∃ d ∈ docs, Fits c.parameters d.parameters := by
  rw [fitsAny, any_eq_true]
  refine exists_congr fun d => and_congr_right fun hd => ?_
  rw [joinParameters_eq hc.parameters (hdocs d hd).parameters, if_neg (haccepted d hd)]
  by_cases hfits : Fits c.parameters d.parameters
  · simp [hfits]
  · simp [hfits]

theorem isUsed_iff (hcode : ∀ c ∈ code, c.IsValid) (hdocs : ∀ d ∈ docs, d.IsValid)
    (hkeywords : ∀ c ∈ code, KeywordsDefaulted c.parameters)
    (haccepted : ∀ c ∈ code, ∀ d ∈ docs, ¬ RefusesAny c.parameters d.parameters) (hc : c ∈ code) :
    isUsed code docs c = true ↔ ∃ d ∈ docs, Fits c.parameters d.parameters := by
  have hfits : ∀ c ∈ code, fitsAny docs c = true ↔ ∃ d ∈ docs, Fits c.parameters d.parameters :=
    fun c hc => fitsAny_iff (hcode c hc) hdocs (haccepted c hc)
  rw [isUsed, Bool.or_eq_true, hfits c hc, any_eq_true]
  constructor
  · rintro (h | ⟨e, he, hequal⟩)
    · exact h
    · rw [Bool.and_eq_true, hfits e he] at hequal
      obtain ⟨⟨d, hd, hfit⟩, hequal⟩ := hequal
      have houtlines := outlines_eq_of_isEqual (hcode e he).orderly (hcode c hc).orderly
        (hkeywords e he) (hkeywords c hc) hequal
      exact ⟨d, hd, (fits_iff_of_outlines_eq houtlines _).1 hfit⟩
  · exact .inl

theorem unused_eq_undocumented (hcode : ∀ c ∈ code, c.IsValid) (hdocs : ∀ d ∈ docs, d.IsValid)
    (hkeywords : ∀ c ∈ code, KeywordsDefaulted c.parameters)
    (haccepted : ∀ c ∈ code, ∀ d ∈ docs, ¬ RefusesAny c.parameters d.parameters) :
    (code.filter fun c => !isUsed code docs c) = undocumented code docs := by
  apply filter_congr
  intro c hc
  rw [Bool.eq_iff_iff, Bool.not_eq_true', ← Bool.not_eq_true,
    isUsed_iff hcode hdocs hkeywords haccepted hc]
  simp

theorem delivers_joinSteps (lead : List Parameter) (hcode : ∀ c ∈ code, c.IsValid)
    (hdocs : ∀ d ∈ docs, d.IsValid) :
    Fault.Delivers (joinSteps code docs lead)
      ((∀ d ∈ docs, (∀ c ∈ code, Joins lead d c) ∧
          (fitting code d = [] → Orderly (lead ++ d.parameters))) ∧
        ∀ c ∈ code.filter (fun c => !isUsed code docs c), Orderly (lead ++ c.parameters))
      (docs.flatMap (documented code lead) ++
        (code.filter fun c => !isUsed code docs c).map (led lead)) := by
  apply Fault.Delivers.append
  · exact Fault.Delivers.flatMap fun d hd => delivers_withDocumented hcode (hdocs d hd)
  · exact Fault.Delivers.map fun c _ s => withParameters_eq_ok_iff c s _

theorem delivers_overlaySteps (lead : List Parameter) (hc : c.IsValid)
    (hdocs : ∀ d ∈ docs, d.IsValid) :
    Fault.Delivers (overlaySteps c docs lead)
      (∀ d ∈ docs, ¬ OverlayRefusesAny c.parameters d.parameters ∧
        Orderly (lead ++ overlaid c.parameters d.parameters))
      (docs.map (overlaidWith lead c)) := by
  apply Fault.Delivers.map
  intro d hd s
  rw [collect_overlay hc.parameters (hdocs d hd).parameters]
  by_cases hrefuses : OverlayRefusesAny c.parameters d.parameters
  · rw [if_pos hrefuses]
    exact ⟨fun h => (by cases h), fun h => absurd hrefuses h.1.1⟩
  · rw [if_neg hrefuses]
    change c.withParameters _ = .ok s ↔ _
    rw [withParameters_eq_ok_iff]
    exact ⟨fun h => ⟨⟨hrefuses, h.1⟩, h.2⟩, fun h => ⟨h.1.2, h.2⟩⟩

theorem withDocumented_ne_nil (code : List Signature) (lead : List Parameter) (d : Signature) :
    withDocumented code lead d ≠ [] := by
  rw [withDocumented]
  split
  · exact cons_ne_nil _ _
  next h => exact fun hnil => h (List.isEmpty_iff.2 hnil)

theorem joinSteps_ne_nil (h : code ≠ [] ∨ docs ≠ []) : joinSteps code docs lead ≠ [] := by
  rw [joinSteps]
  cases docs with
  | nil =>
    have hcode : code ≠ [] := h.resolve_right fun hne => hne rfl
    have hunused : (code.filter fun c => !isUsed code [] c) = code := by
      simp [isUsed, fitsAny]
    rw [hunused, flatMap_nil, nil_append]
    exact fun hnil => hcode (map_eq_nil_iff.1 hnil)
  | cons d docs =>
    rw [flatMap_cons, append_assoc]
    exact append_ne_nil_of_left_ne_nil (withDocumented_ne_nil code lead d) _

theorem orIncomplete_of_ne_nil {steps : List (Except Fault Signature)} (h : steps ≠ []) :
    orIncomplete lead steps = steps := by
  rw [orIncomplete, if_neg (by simpa using h)]

theorem mergeSteps_of_overlay (hdocs : docs ≠ []) (hunknown : c.unknown = true)
    (first : Option Parameter) :
    mergeSteps [c] docs first = overlaySteps c docs first.toList := by
  cases docs with
  | nil => exact absurd rfl hdocs
  | cons d docs => rw [mergeSteps, if_pos hunknown]

theorem mergeSteps_of_join (h : ¬ IsOverlay code docs) (first : Option Parameter) :
    mergeSteps code docs first = joinSteps code docs first.toList := by
  match code, docs with
  | [], [] => rfl
  | [], d :: docs => exact orIncomplete_of_ne_nil (joinSteps_ne_nil (.inr (by simp)))
  | [c], [] => exact orIncomplete_of_ne_nil (joinSteps_ne_nil (.inl (by simp)))
  | [c], d :: docs =>
    have hknown : ¬ c.unknown = true := fun hunknown => h ⟨by simp, c, rfl, hunknown⟩
    rw [mergeSteps, if_neg hknown]
    exact orIncomplete_of_ne_nil (joinSteps_ne_nil (.inl (by simp)))
  | c :: e :: code, docs => exact orIncomplete_of_ne_nil (joinSteps_ne_nil (.inl (by simp)))

theorem mergeSteps_ne_nil (h : code ≠ [] ∨ docs ≠ []) (first : Option Parameter) :
    mergeSteps code docs first ≠ [] := by
  by_cases hoverlay : IsOverlay code docs
  · obtain ⟨hne, c, rfl, hunknown⟩ := hoverlay
    rw [mergeSteps_of_overlay hne hunknown]
    exact fun hnil => hne (map_eq_nil_iff.1 hnil)
  · rw [mergeSteps_of_join hoverlay]
    exact joinSteps_ne_nil h

/-- All that a step of a merge can be: a refused parameter, or the attempt to make a signature. -/
def IsAttempt (step : Except Fault Signature) : Prop :=
  step = .error .badParameter ∨ ∃ (s : Signature) (ps : List Parameter), step = s.withParameters ps

theorem isAttempt_of_withDocumented (hcode : ∀ c ∈ code, c.IsValid) (hd : d.IsValid)
    {step : Except Fault Signature} (h : step ∈ withDocumented code lead d) : IsAttempt step := by
  rw [withDocumented] at h
  split at h
  · exact .inr ⟨d, _, mem_singleton.1 h⟩
  · obtain ⟨c, hc, hstep⟩ := mem_filterMap.1 h
    rw [joinStep_eq (hcode c hc) hd] at hstep
    split at hstep
    · injection hstep with hstep
      exact .inl hstep.symm
    · split at hstep
      · injection hstep with hstep
        exact .inr ⟨c, _, hstep.symm⟩
      · cases hstep

theorem isAttempt_of_mergeSteps (hcode : ∀ c ∈ code, c.IsValid) (hdocs : ∀ d ∈ docs, d.IsValid)
    {first : Option Parameter} {step : Except Fault Signature}
    (h : step ∈ mergeSteps code docs first) : IsAttempt step := by
  by_cases hoverlay : IsOverlay code docs
  · obtain ⟨hne, c, rfl, hunknown⟩ := hoverlay
    rw [mergeSteps_of_overlay hne hunknown] at h
    obtain ⟨d, hd, rfl⟩ := mem_map.1 h
    rw [collect_overlay (hcode c mem_cons_self).parameters (hdocs d hd).parameters]
    split
    · exact .inl rfl
    · exact .inr ⟨c, _, rfl⟩
  · rw [mergeSteps_of_join hoverlay, joinSteps, mem_append] at h
    rcases h with h | h
    · obtain ⟨d, hd, h⟩ := mem_flatMap.1 h
      exact isAttempt_of_withDocumented hcode (hdocs d hd) h
    · obtain ⟨c, _, rfl⟩ := mem_map.1 h
      exact .inr ⟨c, _, rfl⟩

theorem IsAttempt.fault {f : Fault} (h : IsAttempt (.error f)) :
    f = .badParameter ∨ ∃ shown, f = .signatureRefused shown := by
  rcases h with h | ⟨s, ps, h⟩
  · injection h with h
    exact .inl h
  · rw [withParameters, change, make] at h
    split at h
    · cases h
    · injection h with h
      exact .inr ⟨_, h⟩

theorem IsAttempt.orderly {s : Signature} (h : IsAttempt (.ok s)) : Orderly s.parameters := by
  rcases h with h | ⟨t, ps, h⟩
  · cases h
  · obtain ⟨horderly, rfl⟩ := (withParameters_eq_ok_iff t s ps).1 h.symm
    exact orderly_replaced horderly

/-- A merge that ends without a fault gives every documented signature, joined with the code
signatures that fit it or by itself, and then the code signatures that fit none. The overlay gives
one signature for each documented one. There is always a signature, and the guard against an empty
merge never speaks up. -/
theorem merge_loses_nothing (code docs : List Signature) (first : Option Parameter)
    (hcode : ∀ c ∈ code, c.IsValid) (hdocs : ∀ d ∈ docs, d.IsValid)
    (hkeywords : ∀ c ∈ code, KeywordsDefaulted c.parameters)
    (hsome : code ≠ [] ∨ docs ≠ []) :
    ((merge code docs first).2 = none →
      (¬ IsOverlay code docs →
        (merge code docs first).1 = docs.flatMap (documented code first.toList) ++
          (undocumented code docs).map (led first.toList)) ∧
      (∀ c, code = [c] → c.unknown = true → docs ≠ [] →
        (merge code docs first).1 = docs.map (overlaidWith first.toList c)) ∧
      (merge code docs first).1 ≠ []) ∧
    .error .mergeIncomplete ∉ mergeSteps code docs first := by
  constructor
  · intro hrun
    have hjoin : ¬ IsOverlay code docs →
        (merge code docs first).1 = docs.flatMap (documented code first.toList) ++
          (undocumented code docs).map (led first.toList) := by
      intro hoverlay
      have hdelivers := delivers_joinSteps first.toList hcode hdocs
      rw [merge, mergeSteps_of_join hoverlay] at hrun ⊢
      have hcondition := hdelivers.untilFault_snd.1 hrun
      have haccepted : ∀ c ∈ code, ∀ d ∈ docs, ¬ RefusesAny c.parameters d.parameters :=
        fun c hc d hd => ((hcondition.1 d hd).1 c hc).1
      rw [hdelivers.untilFault_fst hcondition,
        unused_eq_undocumented hcode hdocs hkeywords haccepted]
    have hover : ∀ c, code = [c] → c.unknown = true → docs ≠ [] →
        (merge code docs first).1 = docs.map (overlaidWith first.toList c) := by
      rintro c rfl hunknown hne
      have hdelivers :=
        delivers_overlaySteps first.toList (hcode c mem_cons_self) hdocs
      rw [merge, mergeSteps_of_overlay hne hunknown] at hrun ⊢
      exact hdelivers.untilFault_fst (hdelivers.untilFault_snd.1 hrun)
    refine ⟨hjoin, hover, fun hnil => mergeSteps_ne_nil hsome first ?_⟩
    rw [Fault.eq_map_ok_of_untilFault hrun, show (Fault.untilFault _).1 = [] from hnil]
    rfl
  · intro h
    rcases (isAttempt_of_mergeSteps hcode hdocs h).fault with h | ⟨shown, h⟩ <;> cases h

def boxCode : List Signature :=
  [ { parameters := [
        { name := "arg1", kind := .positional },
        { name := "arg2", kind := .positional, default := some (.literal .none) }] },
    { parameters := [
        { name := "name", kind := .flexible },
        { name := "size", kind := .keyword, default := some (.literal (.int 3)) }] },
    { parameters := [
        { name := "x", kind := .positional }, { name := "y", kind := .positional },
        { name := "z", kind := .positional }] } ]

def boxDocs : List Signature :=
  [ { parameters := [{ name := "label", kind := .positional }] },
    { parameters := [
        { name := "from", kind := .positional }, { name := "to", kind := .positional },
        { name := "by", kind := .positional }, { name := "turn", kind := .positional }] } ]

theorem merge_loses_nothing_box :
    (merge boxCode boxDocs (some .self)).1.map (fun s => s.parameters.map Parameter.name) =
      [["self", "label", "arg2"], ["self", "name", "size"],
        ["self", "from", "to", "by", "turn"], ["self", "x", "y", "z"]] := by
  have hrun : (merge boxCode boxDocs (some .self)).2 = none := by decide
  have hjoin : ¬ IsOverlay boxCode boxDocs := by
    rintro ⟨_, c, hc, _⟩
    cases hc
  rw [((merge_loses_nothing boxCode boxDocs (some .self) (by decide) (by decide) (by decide)
    (.inl (by decide))).1 hrun).1 hjoin]
  decide

/-- A code signature joins a documented one whose names are no keywords exactly if the latter is not
longer and what it leaves out has defaults. The first parameter comes before the joined ones, of
which there is one for each code parameter, and they keep its shape. -/
theorem joinStep_keepsShape (code doc : Signature) (first : Option Parameter)
    (hcode : code.IsValid) (hdoc : doc.IsValid)
    (hnames : ∀ p ∈ doc.parameters, Text.isKeyword p.name = false) :
    ((∃ joined, joinStep first.toList doc code = some joined) ↔
      doc.parameters.length ≤ code.parameters.length ∧
        ∀ p ∈ code.parameters.drop doc.parameters.length, p.default.isSome = true) ∧
    ∀ joined, joinStep first.toList doc code = some joined →
      ∃ ps, joinParameters code.parameters doc.parameters = .ok (some ps) ∧
        joined = code.withParameters (first.toList ++ ps) ∧
        ps.length = code.parameters.length ∧
        ∀ (i : Nat) (c q : Parameter), code.parameters[i]? = some c → ps[i]? = some q →
          KeepsShape c doc.parameters[i]? q := by
  have haccepted : ¬ RefusesAny code.parameters doc.parameters := by
    rintro ⟨pair, hpair, -, hkeyword, -⟩
    rw [hnames _ (of_mem_zip hpair).2] at hkeyword
    cases hkeyword
  have hjoined := joinParameters_eq hcode.parameters hdoc.parameters
  rw [if_neg haccepted] at hjoined
  rw [joinStep_eq hcode hdoc, if_neg haccepted]
  by_cases hfits : Fits code.parameters doc.parameters
  · rw [if_pos hfits] at hjoined ⊢
    refine ⟨iff_of_true ⟨_, rfl⟩ hfits, ?_⟩
    rintro joined ⟨⟩
    exact ⟨_, hjoined, rfl, completeAll_length _ _, fun i c q => keepsShape_completeAll _ _⟩
  · rw [if_neg hfits]
    refine ⟨iff_of_false ?_ hfits, ?_⟩
    · rintro ⟨joined, ⟨⟩⟩
    · rintro joined ⟨⟩

def arcCode : Signature where
  parameters := [
    { name := "arg1", kind := .positional, hint := TypeHint.ofList? ["object"] },
    { name := "angle", kind := .flexible, default := some (.literal .none) },
    { name := "arg3", kind := .keyword, default := some (.literal (.int 3)) }]

def arcDoc : Signature where
  parameters := [
    { name := "radius", kind := .flexible, hint := TypeHint.ofList? ["float"] },
    { name := "turn", kind := .flexible, default := some (.literal (.int 360)) }]

theorem joinStep_keepsShape_arc :
    ∃ joined, joinStep [.self] arcDoc arcCode = some joined ∧
      ∃ ps, joined = arcCode.withParameters (.self :: ps) ∧
        ∀ q, ps[0]? = some q → q.name = "radius" ∧ q.kind = .positional := by
  obtain ⟨hjoins, hshape⟩ := joinStep_keepsShape arcCode arcDoc (some .self) (by decide)
    (by decide) (by decide)
  obtain ⟨joined, hjoined⟩ := hjoins.2 (by decide)
  obtain ⟨ps, -, heq, -, hkeeps⟩ := hshape joined hjoined
  refine ⟨joined, hjoined, ps, heq, fun q hq => ?_⟩
  have hfirst := hkeeps 0 _ q rfl hq
  exact ⟨hfirst.takesName _ rfl (by decide) (by decide), hfirst.kind⟩

end BindingStubs.Signature
