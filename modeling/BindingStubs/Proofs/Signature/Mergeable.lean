import BindingStubs.Proofs.Signature.Merging

set_option autoImplicit false

/-! # When merging is refused -/

namespace BindingStubs.Signature

open List

def MayLead (first : Option Parameter) (ps : List Parameter) : Prop :=
  ∀ p ∈ first, ∀ q ∈ ps, MayPrecede p.outline q.outline

theorem mayLead_of_outlines {first : Option Parameter} {ps qs : List Parameter}
    (h : ∀ q ∈ qs, q.outline ∈ ps.map Parameter.outline) (hlead : MayLead first ps) :
    MayLead first qs := by
  intro p hp q hq
  obtain ⟨r, hr, heq⟩ := mem_map.1 (h q hq)
  rw [← heq]
  exact hlead p hp r hr

theorem mayLead_completeAll (first : Option Parameter) (code doc : List Parameter) :
    MayLead first (completeAll code doc) ↔ MayLead first code := by
  constructor
  · apply mayLead_of_outlines
    intro q hq
    rw [completeAll_outline]
    exact mem_map_of_mem hq
  · apply mayLead_of_outlines
    intro q hq
    rw [← completeAll_outline code doc]
    exact mem_map_of_mem hq

theorem orderly_led_iff {first : Option Parameter} {ps : List Parameter}
    (hfresh : ∀ p ∈ first, p.name ∉ ps.map Parameter.name) :
    Orderly (first.toList ++ ps) ↔ MayLead first ps ∧ Orderly ps := by
  cases first with
  | none => simp [MayLead]
  | some p =>
    rw [Option.toList_some, singleton_append, orderly_cons]
    simp [MayLead, hfresh p rfl]

/-- What merging needs besides valid signatures. -/
structure Mergeable (code docs : List Signature) (first : Option Parameter) : Prop where
  code_led : ∀ c ∈ code, MayLead first c.parameters
  docs_led : ∀ d ∈ docs, fitting code d = [] → MayLead first d.parameters
  /-- No documented name is a keyword where none is allowed. -/
  accepted : ∀ c ∈ code, ∀ d ∈ docs, ¬ RefusesAny c.parameters d.parameters
  /-- No documented name that is taken over belongs to the code signature already. -/
  free : ∀ c ∈ code, ∀ d ∈ docs, Fits c.parameters d.parameters →
    ∀ pair ∈ c.parameters.zip d.parameters, Renames pair.1 pair.2 →
      pair.2.name ∉ c.parameters.map Parameter.name

/-- What documented names over unknown code need besides valid signatures. -/
structure Overlayable (c : Signature) (docs : List Signature) (first : Option Parameter) :
    Prop where
  led : ∀ d ∈ docs, MayLead first (overlaid c.parameters d.parameters)
  accepted : ∀ d ∈ docs, ¬ OverlayRefusesAny c.parameters d.parameters
  orderly : ∀ d ∈ docs, Orderly (overlaid c.parameters d.parameters)

/-- The name of the first parameter occurs in no signature. -/
def IsFresh (first : Option Parameter) (signatures : List Signature) : Prop :=
  ∀ p ∈ first, ∀ s ∈ signatures, p.name ∉ s.parameters.map Parameter.name

section
variable {code docs : List Signature} {first : Option Parameter} {c d : Signature}

theorem IsFresh.notMem (hfresh : IsFresh first (code ++ docs)) (hc : c ∈ code) (hd : d ∈ docs)
    {p : Parameter} (hp : p ∈ first) {merged : List Parameter}
    (hmerged : ∀ q ∈ merged,
      q.name ∈ c.parameters.map Parameter.name ∨ q.name ∈ d.parameters.map Parameter.name) :
    p.name ∉ merged.map Parameter.name := by
  intro h
  obtain ⟨q, hq, hname⟩ := mem_map.1 h
  rcases hmerged q hq with h | h <;> rw [hname] at h
  · exact hfresh p hp c (mem_append_left _ hc) h
  · exact hfresh p hp d (mem_append_right _ hd) h

theorem orderly_led_of_valid {s : Signature} (hfresh : IsFresh first (code ++ docs))
    (hs : s ∈ code ++ docs) (hvalid : s.IsValid) :
    Orderly (first.toList ++ s.parameters) ↔ MayLead first s.parameters := by
  rw [orderly_led_iff fun p hp => hfresh p hp s hs]
  exact and_iff_left hvalid.orderly

theorem orderly_led_completeAll (hcode : ∀ c ∈ code, c.IsValid) (hdocs : ∀ d ∈ docs, d.IsValid)
    (hfresh : IsFresh first (code ++ docs)) (hc : c ∈ code) (hd : d ∈ docs) :
    Orderly (first.toList ++ completeAll c.parameters d.parameters) ↔
      MayLead first c.parameters ∧
        ∀ pair ∈ c.parameters.zip d.parameters, Renames pair.1 pair.2 →
          pair.2.name ∉ c.parameters.map Parameter.name := by
  have hnew : ∀ p ∈ first, p.name ∉ (completeAll c.parameters d.parameters).map Parameter.name :=
    fun p hp => hfresh.notMem hc hd hp fun _ => name_mem_of_mem_completeAll
  rw [orderly_led_iff hnew, mayLead_completeAll,
    orderly_completeAll (hcode c hc).orderly (hdocs d hd).orderly]

theorem mayLead_of_isUsed (hcode : ∀ c ∈ code, c.IsValid) (hdocs : ∀ d ∈ docs, d.IsValid)
    (haccepted : ∀ c ∈ code, ∀ d ∈ docs, ¬ RefusesAny c.parameters d.parameters)
    (hled : ∀ c ∈ code, ∀ d ∈ docs, Fits c.parameters d.parameters →
      MayLead first c.parameters) (hc : c ∈ code) (hused : isUsed code docs c = true) :
    MayLead first c.parameters := by
  have hfits : ∀ e ∈ code, fitsAny docs e = true → MayLead first e.parameters := by
    intro e he h
    obtain ⟨d, hd, hfit⟩ := (fitsAny_iff (hcode e he) hdocs (haccepted e he)).1 h
    exact hled e he d hd hfit
  rw [isUsed, Bool.or_eq_true, any_eq_true] at hused
  rcases hused with hused | ⟨e, he, hequal⟩
  · exact hfits c hc hused
  · rw [Bool.and_eq_true] at hequal
    refine mayLead_of_outlines (fun q hq => ?_) (hfits e he hequal.1)
    exact outline_mem_of_isEqual (hcode e he).orderly (hcode c hc).orderly hequal.2 hq

theorem joinSteps_allOk_iff (hcode : ∀ c ∈ code, c.IsValid) (hdocs : ∀ d ∈ docs, d.IsValid)
    (hfresh : IsFresh first (code ++ docs)) :
    Fault.AllOk (joinSteps code docs first.toList) ↔ Mergeable code docs first := by
  rw [(delivers_joinSteps first.toList hcode hdocs).allOk_iff]
  constructor
  · rintro ⟨hdocumented, hunused⟩
    have haccepted : ∀ c ∈ code, ∀ d ∈ docs, ¬ RefusesAny c.parameters d.parameters :=
      fun c hc d hd => ((hdocumented d hd).1 c hc).1
    have hfit : ∀ c ∈ code, ∀ d ∈ docs, Fits c.parameters d.parameters →
        MayLead first c.parameters ∧
          ∀ pair ∈ c.parameters.zip d.parameters, Renames pair.1 pair.2 →
            pair.2.name ∉ c.parameters.map Parameter.name := by
      intro c hc d hd hfits
      rw [← orderly_led_completeAll hcode hdocs hfresh hc hd]
      exact ((hdocumented d hd).1 c hc).2 hfits
    refine ⟨fun c hc => ?_, fun d hd hnone => ?_, haccepted,
      fun c hc d hd h => (hfit c hc d hd h).2⟩
    · cases hused : isUsed code docs c
      · rw [← orderly_led_of_valid hfresh (mem_append_left _ hc) (hcode c hc)]
        exact hunused c (mem_filter.2 ⟨hc, by simp [hused]⟩)
      · exact mayLead_of_isUsed hcode hdocs haccepted
          (fun c hc d hd h => (hfit c hc d hd h).1) hc hused
    · rw [← orderly_led_of_valid hfresh (mem_append_right _ hd) (hdocs d hd)]
      exact (hdocumented d hd).2 hnone
  · intro h
    refine ⟨fun d hd => ⟨fun c hc => ⟨h.accepted c hc d hd, fun hfits => ?_⟩, fun hnone => ?_⟩,
      fun c hc => ?_⟩
    · rw [orderly_led_completeAll hcode hdocs hfresh hc hd]
      exact ⟨h.code_led c hc, h.free c hc d hd hfits⟩
    · rw [orderly_led_of_valid hfresh (mem_append_right _ hd) (hdocs d hd)]
      exact h.docs_led d hd hnone
    · have hmem := mem_of_mem_filter hc
      rw [orderly_led_of_valid hfresh (mem_append_left _ hmem) (hcode c hmem)]
      exact h.code_led c hmem

theorem overlaySteps_allOk_iff (hc : c.IsValid) (hdocs : ∀ d ∈ docs, d.IsValid)
    (hfresh : IsFresh first ([c] ++ docs)) :
    Fault.AllOk (overlaySteps c docs first.toList) ↔ Overlayable c docs first := by
  have hled : ∀ d ∈ docs, Orderly (first.toList ++ overlaid c.parameters d.parameters) ↔
      MayLead first (overlaid c.parameters d.parameters) ∧
        Orderly (overlaid c.parameters d.parameters) :=
    fun d hd => orderly_led_iff fun p hp =>
      hfresh.notMem mem_cons_self hd hp fun _ => name_mem_of_mem_overlaid
  rw [(delivers_overlaySteps first.toList hc hdocs).allOk_iff]
  constructor
  · intro h
    exact ⟨fun d hd => ((hled d hd).1 (h d hd).2).1, fun d hd => (h d hd).1,
      fun d hd => ((hled d hd).1 (h d hd).2).2⟩
  · intro h d hd
    exact ⟨h.accepted d hd, (hled d hd).2 ⟨h.led d hd, h.orderly d hd⟩⟩

end

/-- Merging valid signatures under a fresh first parameter ends without a fault exactly under the
stated conditions. Whatever comes out before a fault has distinct names. -/
theorem merge_completes_iff (code docs : List Signature) (first : Option Parameter)
    (hcode : ∀ c ∈ code, c.IsValid) (hdocs : ∀ d ∈ docs, d.IsValid)
    (hfresh : IsFresh first (code ++ docs)) :
    (¬ IsOverlay code docs →
      ((merge code docs first).2 = none ↔ Mergeable code docs first)) ∧
    (∀ c, code = [c] → c.unknown = true → docs ≠ [] →
      ((merge code docs first).2 = none ↔ Overlayable c docs first)) ∧
    ∀ s ∈ (merge code docs first).1, (s.parameters.map Parameter.name).Nodup := by
  refine ⟨fun hoverlay => ?_, ?_, fun s hs => ?_⟩
  · rw [merge, Fault.untilFault_snd_eq_none_iff, mergeSteps_of_join hoverlay]
    exact joinSteps_allOk_iff hcode hdocs hfresh
  · rintro c rfl hunknown hne
    rw [merge, Fault.untilFault_snd_eq_none_iff, mergeSteps_of_overlay hne hunknown]
    exact overlaySteps_allOk_iff (hcode c mem_cons_self) hdocs hfresh
  · exact (isAttempt_of_mergeSteps hcode hdocs (Fault.mem_of_mem_untilFault hs)).orderly.names

def diskCode : Signature :=
  { parameters := [
      { name := "arg1", kind := .positional }, { name := "radius", kind := .positional }] }

def diskDoc : Signature :=
  { parameters := [
      { name := "radius", kind := .positional }, { name := "center", kind := .positional }] }

/-- Two valid signatures that cannot be merged: the unnamed argument would become a second
`radius`. -/
theorem merge_disk_refused :
    diskCode.IsValid ∧ diskDoc.IsValid ∧ (merge [diskCode] [diskDoc] (some .self)).2 ≠ none := by
  refine ⟨by decide, by decide, fun hrun => ?_⟩
  have hjoin : ¬ IsOverlay [diskCode] [diskDoc] := by
    rintro ⟨_, c, hc, hunknown⟩
    obtain rfl : diskCode = c := singleton_inj.1 hc
    cases hunknown
  have hfresh : IsFresh (some .self) ([diskCode] ++ [diskDoc]) := by
    rintro p ⟨⟩
    decide
  have h := ((merge_completes_iff [diskCode] [diskDoc] (some .self) (by decide) (by decide)
    hfresh).1 hjoin).1 hrun
  exact h.free diskCode mem_cons_self diskDoc mem_cons_self (by decide)
    _ mem_cons_self (by decide) (by decide)

end BindingStubs.Signature
