import BindingStubs.Proofs.Signature.Validity
import BindingStubs.Signature.Merge
import Mathlib.Data.List.Perm.Subperm
import Mathlib.Data.List.Zip

set_option autoImplicit false

/-! # Code parameters beside documented ones -/

namespace BindingStubs.Signature

open List

def Renames (c d : Parameter) : Prop := isMadeUp c.name = true ∧ isMadeUp d.name = false

instance (c d : Parameter) : Decidable (Renames c d) := inferInstanceAs (Decidable (_ ∧ _))

def Refuses (c d : Parameter) : Prop :=
  Renames c d ∧ Text.isKeyword d.name = true ∧ c.kind ≠ .positional

instance (c d : Parameter) : Decidable (Refuses c d) := inferInstanceAs (Decidable (_ ∧ _))

def completedName (c d : Parameter) : String := if Renames c d then d.name else c.name

def completedDefault (c d : Parameter) : Option DefaultValue :=
  match c.default, offered? d with
  | some v, some e => if v.isNone then some e else some v
  | v, _ => v

def completedHint (c d : Parameter) : Option TypeHint :=
  if saysNothing c.hint && !saysNothing d.hint then d.hint else c.hint

def complete (c d : Parameter) : Parameter :=
  { name := completedName c d
    kind := c.kind
    default := completedDefault c d
    hint := completedHint c d }

theorem completedDefault_isSome (c d : Parameter) :
    (completedDefault c d).isSome = c.default.isSome := by
  unfold completedDefault
  split
  next hv he => split <;> simp [hv]
  next => rfl

theorem complete_outline (c d : Parameter) : (complete c d).outline = c.outline := by
  rw [Parameter.outline, Parameter.outline, complete, completedDefault_isSome]

variable {c d : Parameter}

theorem complete_isValid (hc : c.IsValid) (hd : d.IsValid) (h : ¬ Refuses c d) :
    (complete c d).IsValid := by
  refine ⟨fun hkind => ?_, ?_, fun hkeyword => ?_⟩
  · rw [← Option.isNone_iff_eq_none, ← Option.not_isSome, complete, completedDefault_isSome,
      hc.bare hkind]
    rfl
  · unfold complete completedName
    split
    · exact hd.identifier
    · exact hc.identifier
  · unfold complete completedName at hkeyword
    split at hkeyword
    next hrenames =>
      by_contra hkind
      exact h ⟨hrenames, hkeyword, hkind⟩
    next => exact hc.keyword hkeyword

theorem nameFrom_eq (hc : c.IsValid) (hd : d.IsValid) :
    nameFrom c d = if Refuses c d then .error .badParameter
      else .ok { c with name := completedName c d } := by
  by_cases hrenames : Renames c d
  · have hbare : ¬ (c.default.isSome = true ∧
        (c.kind = .varPositional ∨ c.kind = .varKeyword)) := by
      rintro ⟨hsome, hkind⟩
      rw [hc.bare hkind] at hsome
      exact absurd hsome (by decide)
    rw [nameFrom, if_pos (by simp [hrenames.1, hrenames.2]), Parameter.withName,
      Parameter.make_of_identifier hd.identifier]
    simp only [hbare, false_or, Refuses, hrenames, true_and, completedName, if_true]
  · rw [nameFrom, if_neg (by simpa [Renames] using hrenames), if_neg fun h => hrenames h.1,
      completedName, if_neg hrenames]

theorem defaultFrom_eq {p d : Parameter}
    (hvalid : ({ p with default := completedDefault p d } : Parameter).IsValid) :
    defaultFrom p d = .ok { p with default := completedDefault p d } := by
  obtain ⟨name, kind, default, hint⟩ := p
  cases default with
  | none => rfl
  | some v =>
    unfold defaultFrom completedDefault at *
    cases he : offered? d with
    | none => rfl
    | some e =>
      by_cases hnone : v.isNone = true
      · simp only [he, hnone, ↓reduceIte] at hvalid ⊢
        exact hvalid.make_eq
      · simp only [hnone, Bool.false_eq_true, ↓reduceIte]

theorem hintFrom_eq {p d : Parameter}
    (hvalid : ({ p with hint := completedHint p d } : Parameter).IsValid) :
    hintFrom p d = .ok { p with hint := completedHint p d } := by
  unfold hintFrom completedHint at *
  by_cases h : (saysNothing p.hint && !saysNothing d.hint) = true
  · rw [if_pos h] at hvalid ⊢
    rw [if_pos h]
    exact hvalid.make_eq
  · rw [if_neg h, if_neg h]

theorem joinParameter_eq (hc : c.IsValid) (hd : d.IsValid) :
    joinParameter c d = if Refuses c d then .error .badParameter else .ok (complete c d) := by
  rw [joinParameter, nameFrom_eq hc hd]
  by_cases hrefuses : Refuses c d
  · rw [if_pos hrefuses, if_pos hrefuses]
    rfl
  · have hvalid := complete_isValid hc hd hrefuses
    have hdefault : defaultFrom { c with name := completedName c d } d =
        .ok { c with name := completedName c d, default := completedDefault c d } :=
      defaultFrom_eq ⟨hvalid.bare, hvalid.identifier, hvalid.keyword⟩
    have hhint : hintFrom
        { c with name := completedName c d, default := completedDefault c d } d =
        .ok (complete c d) :=
      hintFrom_eq ⟨hvalid.bare, hvalid.identifier, hvalid.keyword⟩
    rw [if_neg hrefuses, if_neg hrefuses]
    change (defaultFrom _ d >>= fun p => hintFrom p d) = _
    rw [hdefault]
    exact hhint

/-- Documented parameters have a place each, and what is left of the code has defaults. -/
def Fits (code doc : List Parameter) : Prop :=
  doc.length ≤ code.length ∧ ∀ p ∈ code.drop doc.length, p.default.isSome = true

instance (code doc : List Parameter) : Decidable (Fits code doc) :=
  inferInstanceAs (Decidable (_ ∧ _))

def RefusesAny (code doc : List Parameter) : Prop :=
  ∃ pair ∈ code.zip doc, Refuses pair.1 pair.2

instance (code doc : List Parameter) : Decidable (RefusesAny code doc) :=
  inferInstanceAs (Decidable (∃ pair ∈ code.zip doc, _))

def completeAll (code doc : List Parameter) : List Parameter :=
  List.zipWith complete code doc ++ code.drop doc.length

theorem fits_cons_cons (c d : Parameter) (code doc : List Parameter) :
    Fits (c :: code) (d :: doc) ↔ Fits code doc := by
  simp [Fits]

theorem fits_cons_nil (c : Parameter) (code : List Parameter) :
    Fits (c :: code) [] ↔ c.default.isSome = true ∧ Fits code [] := by
  simp [Fits]

theorem refusesAny_cons (c d : Parameter) (code doc : List Parameter) :
    RefusesAny (c :: code) (d :: doc) ↔ Refuses c d ∨ RefusesAny code doc := by
  simp [RefusesAny]

theorem completeAll_outline (code doc : List Parameter) :
    (completeAll code doc).map Parameter.outline = code.map Parameter.outline := by
  induction code generalizing doc with
  | nil => simp [completeAll]
  | cons c code ih =>
    cases doc with
    | nil => rfl
    | cons d doc =>
      have h := ih doc
      simp only [completeAll, map_append] at h
      simp only [completeAll, zipWith_cons_cons, length_cons, drop_succ_cons,
        cons_append, map_cons, map_append, complete_outline, h]

variable {code doc : List Parameter}

theorem joinParameters_eq (hcode : ∀ p ∈ code, p.IsValid) (hdoc : ∀ p ∈ doc, p.IsValid) :
    joinParameters code doc =
      if RefusesAny code doc then .error .badParameter
      else .ok (if Fits code doc then some (completeAll code doc) else none) := by
  induction code, doc using joinParameters.induct with
  | case1 => simp [joinParameters, RefusesAny, Fits, completeAll]
  | case2 d doc => simp [joinParameters, RefusesAny, Fits]
  | case3 c code hsome ih =>
    have hrest := ih (fun p hp => hcode p (mem_cons_of_mem _ hp)) hdoc
    have hnone : ∀ ps : List Parameter, ¬ RefusesAny ps [] := by simp [RefusesAny]
    rw [joinParameters, if_pos hsome, hrest, if_neg (hnone _), if_neg (hnone _)]
    simp only [fits_cons_nil, hsome, true_and]
    by_cases hfits : Fits code []
    · rw [if_pos hfits, if_pos hfits]
      simp [completeAll, bind, Except.bind, pure, Except.pure]
    · rw [if_neg hfits, if_neg hfits]
      rfl
  | case4 c code hnone =>
    rw [joinParameters, if_neg hnone, if_neg (by simp [RefusesAny]),
      if_neg (by simp [fits_cons_nil, hnone])]
  | case5 c code d doc ih =>
    have hrest := ih (fun p hp => hcode p (mem_cons_of_mem _ hp))
      (fun p hp => hdoc p (mem_cons_of_mem _ hp))
    rw [joinParameters, joinParameter_eq (hcode c mem_cons_self) (hdoc d mem_cons_self),
      hrest]
    simp only [refusesAny_cons, fits_cons_cons]
    by_cases hfirst : Refuses c d
    · simp [hfirst, bind, Except.bind]
    · by_cases hlater : RefusesAny code doc
      · simp [hfirst, hlater, bind, Except.bind]
      · by_cases hfits : Fits code doc
        · simp [hfirst, hlater, hfits, completeAll, bind, Except.bind, pure, Except.pure]
        · simp [hfirst, hlater, hfits, bind, Except.bind, pure, Except.pure]

theorem index_eq_of_name_eq {ps : List Parameter} (hnames : (ps.map Parameter.name).Nodup)
    {i j : Nat} (hi : i < ps.length) (hj : j < ps.length) (heq : ps[i].name = ps[j].name) :
    i = j := by
  have hi' : i < (ps.map Parameter.name).length := by simpa using hi
  have hj' : j < (ps.map Parameter.name).length := by simpa using hj
  have hmapped : (ps.map Parameter.name)[i] = (ps.map Parameter.name)[j] := by simpa using heq
  exact hnames.getElem_inj_iff.1 hmapped

theorem completedName_of_renames (h : Renames c d) :
    completedName c d = d.name := if_pos h

theorem completedName_of_not_renames (h : ¬ Renames c d) :
    completedName c d = c.name := if_neg h

theorem completeAll_length (code doc : List Parameter) :
    (completeAll code doc).length = code.length := by
  have h := congrArg List.length (completeAll_outline code doc)
  simpa using h

theorem completeAll_name (code doc : List Parameter) (i : Nat)
    (hi : i < (completeAll code doc).length) (hcode : i < code.length) :
    (completeAll code doc)[i].name =
      if h : i < doc.length then completedName code[i] doc[i] else code[i].name := by
  by_cases h : i < doc.length
  · have hlength : i < (List.zipWith complete code doc).length := by
      rw [length_zipWith]
      omega
    simp only [completeAll, h, ↓reduceDIte]
    rw [getElem_append_left hlength, getElem_zipWith]
    rfl
  · have hlength : (List.zipWith complete code doc).length = doc.length := by
      rw [length_zipWith]
      omega
    simp only [completeAll, h, ↓reduceDIte]
    rw [getElem_append_right (by omega), getElem_drop]
    congr 2
    omega

theorem completeAll_name_kept {i : Nat} (hi : i < (completeAll code doc).length)
    (hcode : i < code.length) (hkept : isMadeUp code[i].name = false) :
    (completeAll code doc)[i].name = code[i].name := by
  rw [completeAll_name code doc i hi hcode]
  split
  · apply completedName_of_not_renames
    rintro ⟨hmadeUp, _⟩
    rw [hkept] at hmadeUp
    cases hmadeUp
  · rfl

theorem clash_of_name_eq (hcode : (code.map Parameter.name).Nodup)
    (hdoc : (doc.map Parameter.name).Nodup) {i j : Nat} (hi : i < (completeAll code doc).length)
    (hj : j < (completeAll code doc).length) (hij : i ≠ j)
    (heq : (completeAll code doc)[i].name = (completeAll code doc)[j].name) :
    ∃ pair ∈ code.zip doc, Renames pair.1 pair.2 ∧ pair.2.name ∈ code.map Parameter.name := by
  have hi' : i < code.length := completeAll_length code doc ▸ hi
  have hj' : j < code.length := completeAll_length code doc ▸ hj
  have hcodes : code[i].name ≠ code[j].name :=
    fun h => hij (index_eq_of_name_eq hcode hi' hj' h)
  have hpair : ∀ k, (hk : k < code.length) → (hd : k < doc.length) →
      (code[k], doc[k]) ∈ code.zip doc := by
    intro k hk hd
    rw [mem_iff_getElem]
    exact ⟨k, by rw [length_zip]; omega, getElem_zip⟩
  have hmem : ∀ k, (hk : k < code.length) → code[k].name ∈ code.map Parameter.name :=
    fun k hk => mem_map_of_mem (getElem_mem hk)
  -- A place either keeps its name or takes the documented one.
  have hplace : ∀ k, (hk : k < (completeAll code doc).length) → (hk' : k < code.length) →
      (completeAll code doc)[k].name = code[k].name ∨
        ∃ hd : k < doc.length, Renames code[k] doc[k] ∧
          (completeAll code doc)[k].name = doc[k].name := by
    intro k hk hk'
    rw [completeAll_name code doc k hk hk']
    split
    next hd =>
      by_cases hrenames : Renames code[k] doc[k]
      · exact .inr ⟨hd, hrenames, completedName_of_renames hrenames⟩
      · exact .inl (completedName_of_not_renames hrenames)
    next => exact .inl rfl
  rcases hplace i hi hi' with hki | ⟨hdi, hri, hni⟩ <;>
    rcases hplace j hj hj' with hkj | ⟨hdj, hrj, hnj⟩
  · exact absurd (hki.symm.trans (heq.trans hkj)) hcodes
  · refine ⟨_, hpair j hj' hdj, hrj, ?_⟩
    rw [← hnj, ← heq, hki]
    exact hmem i hi'
  · refine ⟨_, hpair i hi' hdi, hri, ?_⟩
    rw [← hni, heq, hkj]
    exact hmem j hj'
  · exact absurd (index_eq_of_name_eq hdoc hdi hdj (hni.symm.trans (heq.trans hnj))) hij

theorem completeAll_names_nodup (hcode : (code.map Parameter.name).Nodup)
    (hdoc : (doc.map Parameter.name).Nodup) :
    ((completeAll code doc).map Parameter.name).Nodup ↔
      ∀ pair ∈ code.zip doc, Renames pair.1 pair.2 →
        pair.2.name ∉ code.map Parameter.name := by
  constructor
  · intro hnodup pair hpair hrenames hmem
    obtain ⟨i, hi, rfl⟩ := mem_iff_getElem.1 hpair
    obtain ⟨j, hj, hname⟩ := mem_iff_getElem.1 hmem
    rw [length_zip] at hi
    rw [length_map] at hj
    simp only [getElem_zip, getElem_map] at hrenames hname
    have hi' : i < code.length := by omega
    have hd : i < doc.length := by omega
    have hkept : isMadeUp code[j].name = false := hname ▸ hrenames.2
    have hli : i < (completeAll code doc).length := by rwa [completeAll_length]
    have hlj : j < (completeAll code doc).length := by rwa [completeAll_length]
    have heq : (completeAll code doc)[i].name = (completeAll code doc)[j].name := by
      rw [completeAll_name code doc i hli hi', dif_pos hd, completedName_of_renames hrenames,
        completeAll_name_kept hlj hj hkept, hname]
    obtain rfl : i = j := index_eq_of_name_eq hnodup hli hlj heq
    rw [hrenames.1] at hkept
    cases hkept
  · intro hfree
    rw [List.Nodup, pairwise_iff_getElem]
    intro i j hi hj hij heq
    rw [length_map] at hi hj
    rw [getElem_map, getElem_map] at heq
    obtain ⟨pair, hpair, hrenames, hmem⟩ :=
      clash_of_name_eq hcode hdoc hi hj (by omega) heq
    exact hfree pair hpair hrenames hmem

theorem name_mem_of_mem_completeAll {p : Parameter} (h : p ∈ completeAll code doc) :
    p.name ∈ code.map Parameter.name ∨ p.name ∈ doc.map Parameter.name := by
  obtain ⟨i, hi, rfl⟩ := mem_iff_getElem.1 h
  have hcode : i < code.length := completeAll_length code doc ▸ hi
  rw [completeAll_name code doc i hi hcode]
  split
  next hdoc =>
    unfold completedName
    split
    · exact .inr (mem_map_of_mem (getElem_mem hdoc))
    · exact .inl (mem_map_of_mem (getElem_mem hcode))
  next => exact .inl (mem_map_of_mem (getElem_mem hcode))

theorem orderly_completeAll (hcode : Orderly code) (hdoc : Orderly doc) :
    Orderly (completeAll code doc) ↔
      ∀ pair ∈ code.zip doc, Renames pair.1 pair.2 →
        pair.2.name ∉ code.map Parameter.name := by
  rw [← completeAll_names_nodup hcode.names hdoc.names]
  constructor
  · exact Orderly.names
  · intro hnames
    refine ⟨?_, hnames⟩
    rw [completeAll_outline]
    exact hcode.outlines

def KeywordsDefaulted (ps : List Parameter) : Prop :=
  ∀ p ∈ ps, p.kind = .keyword → p.default.isSome = true

instance (ps : List Parameter) : Decidable (KeywordsDefaulted ps) :=
  inferInstanceAs (Decidable (∀ p ∈ ps, _ → _))

theorem outlines_split {os : List (ParameterKind × Bool)} (h : os.Pairwise MayPrecede) :
    os = os.filter (fun o => o.1.rank < 3) ++ os.filter (fun o => o.1 == .keyword) ++
      os.filter (fun o => 3 < o.1.rank) := by
  induction os with
  | nil => rfl
  | cons o os ih =>
    obtain ⟨hfirst, hrest⟩ := pairwise_cons.1 h
    have hsplit := ih hrest
    obtain ⟨kind, defaulted⟩ := o
    have hranks : ∀ b ∈ os, kind.rank ≤ b.1.rank := fun b hb => (hfirst b hb).1
    have hearly : 3 ≤ kind.rank → os.filter (fun o => o.1.rank < 3) = [] := by
      intro hkind
      rw [filter_eq_nil_iff]
      intro b hb
      have hrank := hranks b hb
      rw [decide_eq_true_eq]
      omega
    cases kind with
    | positional | flexible | varPositional =>
      rw [filter_cons_of_pos rfl, filter_cons_of_neg Bool.false_ne_true,
        filter_cons_of_neg Bool.false_ne_true, cons_append, cons_append]
      exact congrArg (List.cons _) hsplit
    | keyword =>
      rw [hearly (Nat.le_refl 3)] at hsplit
      rw [filter_cons_of_neg Bool.false_ne_true, filter_cons_of_pos rfl,
        filter_cons_of_neg Bool.false_ne_true, hearly (Nat.le_refl 3)]
      exact congrArg (List.cons _) hsplit
    | varKeyword =>
      have hnone : os.filter (fun o => o.1 == .keyword) = [] := by
        rw [filter_eq_nil_iff]
        intro b hb hkeyword
        have hrank := hranks b hb
        rw [beq_iff_eq] at hkeyword
        rw [hkeyword] at hrank
        exact absurd hrank (by decide)
      rw [hearly (by decide), hnone] at hsplit
      rw [filter_cons_of_neg Bool.false_ne_true, filter_cons_of_neg Bool.false_ne_true,
        filter_cons_of_pos rfl, hearly (by decide), hnone]
      exact congrArg (List.cons _) hsplit

theorem outlines_eq_of_others {os us : List (ParameterKind × Bool)} (hos : os.Pairwise MayPrecede)
    (hus : us.Pairwise MayPrecede)
    (hothers : os.filter (fun o => o.1 != .keyword) = us.filter (fun o => o.1 != .keyword))
    (hcount : (os.filter (fun o => o.1 == .keyword)).length =
      (us.filter (fun o => o.1 == .keyword)).length)
    (hosDefaulted : ∀ o ∈ os, o.1 = .keyword → o.2 = true)
    (husDefaulted : ∀ o ∈ us, o.1 = .keyword → o.2 = true) : os = us := by
  have hkeywords : ∀ vs : List (ParameterKind × Bool),
      (∀ o ∈ vs, o.1 = .keyword → o.2 = true) → vs.filter (fun o => o.1 == .keyword) =
        List.replicate (vs.filter (fun o => o.1 == .keyword)).length (.keyword, true) := by
    intro vs hvs
    rw [eq_replicate_iff]
    refine ⟨rfl, fun o ho => ?_⟩
    obtain ⟨hmem, hkind⟩ := mem_filter.1 ho
    rw [beq_iff_eq] at hkind
    exact Prod.ext hkind (hvs o hmem hkind)
  have hearly : ∀ vs : List (ParameterKind × Bool), vs.filter (fun o => o.1.rank < 3) =
      (vs.filter (fun o => o.1 != .keyword)).filter (fun o => o.1.rank < 3) := by
    intro vs
    rw [filter_filter]
    apply filter_congr
    rintro ⟨kind, _⟩ _
    cases kind <;> rfl
  have hlate : ∀ vs : List (ParameterKind × Bool), vs.filter (fun o => 3 < o.1.rank) =
      (vs.filter (fun o => o.1 != .keyword)).filter (fun o => 3 < o.1.rank) := by
    intro vs
    rw [filter_filter]
    apply filter_congr
    rintro ⟨kind, _⟩ _
    cases kind <;> rfl
  rw [outlines_split hos, outlines_split hus, hearly os, hearly us, hlate os, hlate us, hothers,
    hkeywords os hosDefaulted, hkeywords us husDefaulted, hcount]

theorem isSome_eq_of_isEqualDefault {a b : Option DefaultValue}
    (h : isEqualDefault a b = true) : a.isSome = b.isSome := by
  cases a <;> cases b <;> first | rfl | simp [isEqualDefault] at h

theorem outline_eq_of_isEqualParameter {p q : Parameter} (h : isEqualParameter p q = true) :
    p.outline = q.outline := by
  simp only [isEqualParameter, Bool.and_eq_true, beq_iff_eq] at h
  exact Prod.ext h.1.1.1.2 (isSome_eq_of_isEqualDefault h.1.1.2)

theorem outlines_eq_of_allEqualParameters {ps qs : List Parameter}
    (h : allEqualParameters ps qs = true) :
    ps.map Parameter.outline = qs.map Parameter.outline := by
  induction ps generalizing qs with
  | nil =>
    cases qs with
    | nil => rfl
    | cons q qs => simp [allEqualParameters] at h
  | cons p ps ih =>
    cases qs with
    | nil => simp [allEqualParameters] at h
    | cons q qs =>
      rw [allEqualParameters, Bool.and_eq_true] at h
      rw [map_cons, map_cons, outline_eq_of_isEqualParameter h.1, ih h.2]

theorem filter_outline (ps : List Parameter) (keep : ParameterKind → Bool) :
    (ps.map Parameter.outline).filter (fun o => keep o.1) =
      (ps.filter fun p => keep p.kind).map Parameter.outline := by
  rw [filter_map]
  rfl

theorem outlines_eq_of_isEqual {s t : Signature} (hs : Orderly s.parameters)
    (ht : Orderly t.parameters) (hsKeywords : KeywordsDefaulted s.parameters)
    (htKeywords : KeywordsDefaulted t.parameters) (h : s.isEqual t = true) :
    s.parameters.map Parameter.outline = t.parameters.map Parameter.outline := by
  have hdefaulted : ∀ ps : List Parameter, KeywordsDefaulted ps →
      ∀ o ∈ ps.map Parameter.outline, o.1 = .keyword → o.2 = true := by
    intro ps hps o ho hkind
    obtain ⟨p, hp, rfl⟩ := mem_map.1 ho
    exact hps p hp hkind
  simp only [isEqual, Bool.and_eq_true, beq_iff_eq] at h
  obtain ⟨⟨⟨_, hothers⟩, hcount⟩, _⟩ := h
  apply outlines_eq_of_others hs.outlines ht.outlines
  · rw [filter_outline _ (· != .keyword), filter_outline _ (· != .keyword)]
    exact outlines_eq_of_allEqualParameters hothers
  · rw [filter_outline _ (· == .keyword), filter_outline _ (· == .keyword), length_map,
      length_map]
    exact hcount
  · exact hdefaulted _ hsKeywords
  · exact hdefaulted _ htKeywords

theorem keyword_names_subset {ps qs : List Parameter} (hps : (ps.map Parameter.name).Nodup)
    (hlength : ps.length = qs.length)
    (h : ∀ p ∈ ps, ∃ q ∈ qs, isEqualParameter p q = true) :
    qs.map Parameter.name ⊆ ps.map Parameter.name := by
  have hsubset : ps.map Parameter.name ⊆ qs.map Parameter.name := by
    intro name hname
    obtain ⟨p, hp, rfl⟩ := mem_map.1 hname
    obtain ⟨q, hq, hequal⟩ := h p hp
    simp only [isEqualParameter, Bool.and_eq_true, beq_iff_eq] at hequal
    rw [hequal.1.1.1.1]
    exact mem_map_of_mem hq
  have hsubperm := subperm_of_subset hps hsubset
  exact (hsubperm.perm_of_length_le (by simp [hlength])).symm.subset

theorem outline_mem_of_isEqual {s t : Signature} (hs : Orderly s.parameters)
    (ht : Orderly t.parameters) (h : s.isEqual t = true) {q : Parameter}
    (hq : q ∈ t.parameters) : q.outline ∈ s.parameters.map Parameter.outline := by
  simp only [isEqual, Bool.and_eq_true, beq_iff_eq, all_eq_true, any_eq_true] at h
  obtain ⟨⟨⟨_, hothers⟩, hcount⟩, hnamed⟩ := h
  by_cases hkind : q.kind = .keyword
  · have hnames : ((s.parameters.filter fun p => p.kind == .keyword).map Parameter.name).Nodup :=
      hs.names.sublist (filter_sublist.map _)
    have hqNamed : q ∈ t.parameters.filter fun p => p.kind == .keyword :=
      mem_filter.2 ⟨hq, by simp [hkind]⟩
    obtain ⟨p, hp, hname⟩ := mem_map.1
      (keyword_names_subset hnames hcount hnamed (mem_map_of_mem hqNamed))
    obtain ⟨r, hr, hequal⟩ := hnamed p hp
    have hrq : r = q := by
      apply inj_on_of_nodup_map ht.names (mem_of_mem_filter hr) hq
      rw [← hname]
      simp only [isEqualParameter, Bool.and_eq_true, beq_iff_eq] at hequal
      exact hequal.1.1.1.1.symm
    rw [← hrq, ← outline_eq_of_isEqualParameter hequal]
    exact mem_map_of_mem (mem_of_mem_filter hp)
  · have hmem : q.outline ∈ (t.parameters.filter fun p => p.kind != .keyword).map
        Parameter.outline :=
      mem_map_of_mem (mem_filter.2 ⟨hq, by simp [hkind]⟩)
    rw [← outlines_eq_of_allEqualParameters hothers] at hmem
    exact (filter_sublist.map _).subset hmem

theorem fits_iff_of_outlines_eq {ps qs : List Parameter}
    (h : ps.map Parameter.outline = qs.map Parameter.outline) (doc : List Parameter) :
    Fits ps doc ↔ Fits qs doc := by
  have hshape : ∀ rs : List Parameter, Fits rs doc ↔
      doc.length ≤ (rs.map Parameter.outline).length ∧
        ∀ o ∈ (rs.map Parameter.outline).drop doc.length, o.2 = true := by
    intro rs
    rw [Fits, length_map, ← map_drop, forall_mem_map]
    rfl
  rw [hshape ps, hshape qs, h]

/-- What becomes of a code parameter beside the documented one at its place, if there is one. The
kind stays, and so does having a default. The name, the default and the hint change only where the
code says nothing, and there they are taken from the documentation if that says more. -/
structure KeepsShape (c : Parameter) (d? : Option Parameter) (q : Parameter) : Prop where
  kind : q.kind = c.kind
  defaulted : q.default.isSome = c.default.isSome
  name : q.name ≠ c.name →
    isMadeUp c.name = true ∧ ∃ d ∈ d?, q.name = d.name ∧ isMadeUp d.name = false
  default : q.default ≠ c.default →
    c.default = some (.literal .none) ∧ ∃ d ∈ d?, q.default = d.default
  hint : q.hint ≠ c.hint →
    (c.hint = none ∨ ∃ a ∈ c.hint, a.single? = some "object") ∧ ∃ d ∈ d?, q.hint = d.hint
  takesName : ∀ d ∈ d?, isMadeUp c.name = true → isMadeUp d.name = false → q.name = d.name
  takesDefault : ∀ d ∈ d?, c.default = some (.literal .none) → d.default.isSome = true →
    q.default = d.default
  takesHint : ∀ d ∈ d?, saysNothing c.hint = true → saysNothing d.hint = false → q.hint = d.hint

theorem isNone_eq_true_iff {v : DefaultValue} : v.isNone = true ↔ v = .literal .none := by
  unfold DefaultValue.isNone
  split <;> simp_all

theorem completedDefault_of_none (hc : c.default = some (.literal .none))
    (hd : d.default.isSome = true) : completedDefault c d = d.default := by
  obtain ⟨e, he⟩ := Option.isSome_iff_exists.1 hd
  by_cases hnone : e.isNone = true
  · have hoffered : offered? d = none := by rw [offered?, he]; exact if_pos hnone
    rw [completedDefault, hc, hoffered, he, isNone_eq_true_iff.1 hnone]
  · have hoffered : offered? d = some e := by rw [offered?, he]; exact if_neg hnone
    rw [completedDefault, hc, hoffered, he]
    rfl

theorem completedDefault_cases (c d : Parameter) :
    completedDefault c d = c.default ∨
      c.default = some (.literal .none) ∧ completedDefault c d = d.default := by
  by_cases hc : c.default = some (.literal .none)
  · by_cases hd : d.default.isSome = true
    · exact .inr ⟨hc, completedDefault_of_none hc hd⟩
    · rw [Bool.not_eq_true, Option.isSome_eq_false_iff, Option.isNone_iff_eq_none] at hd
      rw [completedDefault, offered?, hc, hd]
      exact .inl rfl
  · refine .inl ?_
    unfold completedDefault
    split
    next v e hv he =>
      rw [if_neg fun hnone => hc (hv.trans (congrArg some (isNone_eq_true_iff.1 hnone))), hv]
    next => rfl

theorem completedHint_cases (c d : Parameter) :
    completedHint c d = c.hint ∨ saysNothing c.hint = true ∧ completedHint c d = d.hint := by
  unfold completedHint
  split
  next h => exact .inr ⟨(Bool.and_eq_true_iff.1 h).1, rfl⟩
  next => exact .inl rfl

theorem saysNothing_iff {hint : Option TypeHint} :
    saysNothing hint = true ↔ hint = none ∨ ∃ a ∈ hint, a.single? = some "object" := by
  cases hint <;> simp [saysNothing, TypeHint.isText]

theorem keepsShape_self (c : Parameter) : KeepsShape c none c where
  kind := rfl
  defaulted := rfl
  name h := absurd rfl h
  default h := absurd rfl h
  hint h := absurd rfl h
  takesName := by rintro _ ⟨⟩
  takesDefault := by rintro _ ⟨⟩
  takesHint := by rintro _ ⟨⟩

theorem keepsShape_complete (c d : Parameter) : KeepsShape c (some d) (complete c d) where
  kind := rfl
  defaulted := completedDefault_isSome c d
  name h := by
    by_cases hrenames : Renames c d
    · exact ⟨hrenames.1, d, rfl, completedName_of_renames hrenames, hrenames.2⟩
    · exact absurd (completedName_of_not_renames hrenames) h
  default h := by
    obtain ⟨hnone, htaken⟩ := (completedDefault_cases c d).resolve_left h
    exact ⟨hnone, d, rfl, htaken⟩
  hint h := by
    obtain ⟨hnothing, htaken⟩ := (completedHint_cases c d).resolve_left h
    exact ⟨saysNothing_iff.1 hnothing, d, rfl, htaken⟩
  takesName := by
    rintro _ ⟨⟩ hc hd
    exact completedName_of_renames ⟨hc, hd⟩
  takesDefault := by
    rintro _ ⟨⟩ hc hd
    exact completedDefault_of_none hc hd
  takesHint := by
    rintro _ ⟨⟩ hc hd
    exact if_pos (by rw [hc, hd]; rfl)

theorem keepsShape_completeAll (code doc : List Parameter) {i : Nat} {c q : Parameter}
    (hc : code[i]? = some c) (hq : (completeAll code doc)[i]? = some q) :
    KeepsShape c doc[i]? q := by
  induction code generalizing doc i with
  | nil => simp at hc
  | cons p code ih =>
    cases doc with
    | nil =>
      rw [completeAll, zipWith_nil_right, nil_append, length_nil, drop_zero, hc,
        Option.some.injEq] at hq
      rw [← hq, getElem?_nil]
      exact keepsShape_self c
    | cons d doc =>
      have hsplit : completeAll (p :: code) (d :: doc) = complete p d :: completeAll code doc := rfl
      rw [hsplit] at hq
      cases i with
      | zero =>
        obtain rfl : p = c := by simpa using hc
        obtain rfl : complete p d = q := by simpa using hq
        exact keepsShape_complete p d
      | succ i => exact ih doc hc hq

end BindingStubs.Signature
