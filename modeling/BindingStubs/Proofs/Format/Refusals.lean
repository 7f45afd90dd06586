import BindingStubs.Proofs.Inference.Declaration
import BindingStubs.Proofs.Format.Names

set_option autoImplicit false

/-! # Refused names -/

namespace BindingStubs

open List

namespace Fault

variable {α β : Type}

def refusesNames : Fault → Bool
  | .badParameter | .signatureRefused _ => true
  | _ => false

def Spares (step : Except Fault α) : Prop := ∀ f, step = .error f → f.refusesNames = false

namespace Spares

theorem ok (a : α) : Spares (.ok a) := by
  rintro f ⟨⟩

theorem error {f : Fault} (h : f.refusesNames = false) : Spares (.error f : Except Fault α) := by
  rintro _ ⟨⟩
  exact h

theorem bind {step : Except Fault α} {next : α → Except Fault β} (hstep : Spares step)
    (hnext : ∀ a, Spares (next a)) : Spares (step >>= next) := by
  cases step with
  | ok a => exact hnext a
  | error f =>
    rintro _ ⟨⟩
    exact hstep f rfl

end Spares

end Fault

namespace Gen

variable {α β : Type} {project : Project}

theorem run_bind_eq_error {x : Gen α} {f : α → Gen β} {s t : Session} {fault : Fault} :
    (x >>= f).run project s = (.error fault, t) ↔ x.run project s = (.error fault, t) ∨
      ∃ a u, x.run project s = (.ok a, u) ∧ (f a).run project u = (.error fault, t) := by
  rw [run_bind]
  rcases x.run project s with ⟨outcome, u⟩
  cases outcome with
  | error other => simp
  | ok a => simp

theorem error_of_demand {step : Except Fault α} {s t : Session} {fault : Fault}
    (h : (demand step).run project s = (.error fault, t)) : step = .error fault := by
  cases step with
  | ok a => cases h
  | error other =>
    have outcome := run_demand_error (α := α) other project s
    rw [h] at outcome
    cases outcome
    rfl

def Spares (project : Project) (x : Gen α) : Prop :=
  ∀ s t f, x.run project s = (.error f, t) → f.refusesNames = false

namespace Spares

theorem of_ends {x : Gen α} {a : α} (h : Ends project x (.ok a)) : Spares project x := by
  intro s t f hrun
  have outcome := h s
  rw [hrun] at outcome
  cases outcome

theorem pure (a : α) : Spares project (Pure.pure a) := of_ends (a := a) fun _ => rfl

theorem read : Spares project MonadReader.read := of_ends (a := project) fun _ => rfl

theorem report (level : LogLevel) (reporter : Reporter) (text : String) :
    Spares project (Gen.report level reporter text) := of_ends (a := ()) fun _ => rfl

theorem need (name : String) : Spares project (Gen.need name) := of_ends (a := ()) fun _ => rfl

theorem needAll (names : List String) : Spares project (Gen.needAll names) :=
  of_ends (a := ()) fun _ => rfl

theorem throw {f : Fault} (h : f.refusesNames = false) :
    Spares project (MonadExcept.throw f : Gen α) := by
  rintro s t _ ⟨⟩
  exact h

theorem demand {step : Except Fault α} (h : Fault.Spares step) : Spares project (Gen.demand step) := by
  intro s t f hrun
  exact h f (error_of_demand hrun)

theorem bind {x : Gen α} {f : α → Gen β} (hx : Spares project x)
    (hf : ∀ a, Gives project x a → Spares project (f a)) : Spares project (x >>= f) := by
  intro s t fault hrun
  rcases run_bind_eq_error.mp hrun with hfirst | ⟨a, u, hfirst, hsecond⟩
  · exact hx s t fault hfirst
  · exact hf a ⟨s, u, hfirst⟩ u t fault hsecond

end Spares

end Gen

open Gen

namespace Xml

theorem spares_orMalformed {α : Type} (o : Option α) : Fault.Spares (orMalformed o) := by
  cases o with
  | some a => exact .ok a
  | none => exact .error rfl

theorem spares_decodePairs (swap : Bool) (octets : List UInt8) :
    Fault.Spares (decodePairs swap octets) := by
  rw [decodePairs]
  refine .bind (spares_orMalformed _) fun cs => .bind (spares_orMalformed _) fun named => ?_
  dsimp only
  split
  · exact .ok cs
  · exact .error rfl

theorem spares_decodeNamed (octets : List UInt8) : Fault.Spares (decodeNamed octets) := by
  rw [decodeNamed]
  refine .bind (spares_orMalformed _) fun named => ?_
  dsimp only
  split
  · exact spares_orMalformed _
  · exact .error rfl
  · exact .error rfl
  · exact .error rfl
  · split
    · exact spares_orMalformed _
    all_goals exact .error rfl

theorem spares_decode (octets : List UInt8) : Fault.Spares (decode octets) := by
  fun_cases decode octets
  · exact spares_decodePairs _ _
  · exact spares_decodePairs _ _
  · exact spares_decodeNamed _
  · exact spares_decodeNamed _

theorem spares_read (octets : List UInt8) : Fault.Spares (Xml.read octets) :=
  .bind (spares_decode octets) fun _ => spares_orMalformed _

end Xml

theorem SourceTree.spares_locate (t : SourceTree) (place parts : List String) :
    Fault.Spares (t.locate place parts) := by
  induction parts generalizing place with
  | nil => exact .ok _
  | cons part rest ih =>
    rw [SourceTree.locate]
    split
    · split <;> exact .error rfl
    · split
      · exact ih _
      · split
        · exact .error rfl
        · exact ih _

theorem SourceTree.spares_octets (t : SourceTree) (p : Path) : Fault.Spares (t.octets p) := by
  refine .bind (t.spares_locate _ _) fun place => ?_
  split
  · exact .ok _
  · split <;> exact .error rfl

namespace ClassReference

variable {project : Project}

theorem spares_description? (stem namespace_ : String) :
    Spares project (description? stem namespace_) := by
  refine .bind .read fun _ _ => ?_
  dsimp only
  split
  · exact .pure _
  · exact .pure _
  · split
    · exact .pure _
    · exact .bind (.report _ _ _) fun _ _ => .pure _

theorem spares_readDescription (p : Path) : Spares project (readDescription p) :=
  .bind .read fun _ _ => .bind (.demand (SourceTree.spares_octets _ _)) fun _ _ =>
    .demand (Xml.spares_read _)

theorem spares_attributeOf (e : Xml.Element) (name : String) :
    Spares project (attributeOf e name) := by
  rw [attributeOf]
  split
  · exact .pure _
  · exact .throw rfl

theorem spares_ofElement (e : Xml.Element) : Spares project (ofElement e) := by
  rw [ofElement]
  dsimp only
  split
  · split
    · exact .throw rfl
    · exact .pure _
    · exact .pure _
  · exact .bind (spares_attributeOf e _) fun _ _ => .bind .read fun _ _ =>
      .bind (spares_attributeOf e _) fun _ _ => .pure _

theorem spares_ofStem (stem namespace_ : String) : Spares project (ofStem stem namespace_) := by
  refine .bind (spares_description? stem namespace_) fun found _ => ?_
  cases found with
  | none => exact .pure _
  | some p =>
    refine .bind (spares_readDescription p) fun root _ => ?_
    split
    · split
      · exact .throw rfl
      · exact spares_ofElement _
    · exact .throw rfl

theorem spares_ofCppType (written : String) : Spares project (ofCppType written) := by
  have cut : Fault.Spares
      (Naming.cutNamespace (Text.dropEnd (Text.dropEnd written "::Type") "::type_object(")) := by
    rw [Naming.cutNamespace]
    split
    · exact .ok _
    · exact .ok _
    · exact .error rfl
  exact .bind (.demand cut) fun _ _ => spares_ofStem _ _

end ClassReference

namespace Format

variable {project : Project}

theorem spares_typeOfPointer? (written : String) : Spares project (typeOfPointer? written) := by
  have modules (dotted : String) : Fault.Spares (Naming.moduleName dotted) := by
    rw [Naming.moduleName]
    split
    · exact .ok _
    · exact .error rfl
  rw [typeOfPointer?]
  split
  · exact .bind (ClassReference.spares_ofCppType _) fun _ _ =>
      .bind (.demand (modules _)) fun _ _ => .bind (.need _) fun _ _ => .pure _
  · split
    · split
      · exact .pure _
      · exact .throw rfl
    · exact .bind (.report _ _ _) fun _ _ => .pure _

theorem spares_pointerType? (written : List String) : Spares project (pointerType? written) := by
  induction written with
  | nil => exact .pure _
  | cons first rest ih =>
    rw [pointerType?]
    refine .bind (spares_typeOfPointer? first) fun found _ => ?_
    cases found with
    | some type => exact .pure _
    | none => exact .bind ih fun _ _ => .pure _

theorem spares_value? (s : String) : Spares project (Literal.value? s) := by
  have reports (broken : List String) : Spares project (Literal.reportBroken broken) := by
    induction broken with
    | nil => exact .pure _
    | cons s rest ih => exact .bind (.report _ _ _) fun _ _ => ih
  rw [Literal.value?]
  refine .bind (reports _) fun _ _ => ?_
  dsimp only
  split
  · exact .throw rfl
  · split
    · exact .pure _
    · split
      · exact .pure _
      · exact .throw rfl

theorem spares_firstValue? (written : List String) : Spares project (firstValue? written) := by
  induction written with
  | nil => exact .pure _
  | cons s rest ih =>
    rw [firstValue?]
    refine .bind (spares_value? _) fun found _ => ?_
    cases found with
    | some v => exact .pure _
    | none =>
      dsimp only
      split
      · exact .bind (.needAll _) fun _ _ => .pure _
      · exact ih

variable {c : ParseCall} {p : Progress}

theorem spares_unitDefault (code : String) : Spares project (unitDefault c p code) := by
  have received := c.ends_receiver? code p.argumentIndex project
  rw [unitDefault]
  refine .bind (.of_ends received) fun receiver reached => ?_
  cases receiver with
  | none => exact .pure _
  | some name =>
    obtain ⟨s, t, hrun⟩ := reached
    have found := received s
    rw [hrun, Except.ok.injEq] at found
    have usable : Text.isAlnumText name = true := (Option.filter_eq_some_iff.mp found.symm).2
    obtain ⟨values, assigned⟩ := ends_assignedValues project usable c.declarations
    refine .bind (.of_ends assigned) fun values _ =>
      .bind (spares_firstValue? values) fun value _ => ?_
    cases value with
    | some d => exact .pure _
    | none =>
      dsimp only
      split
      · exact .bind (.report _ _ _) fun _ _ => .pure _
      · exact .pure _

theorem spares_unitSlot (u : ArgumentUnit) (type : String) :
    Spares project (unitSlot c p u type) :=
  .bind (.of_ends (c.ends_parameterName _ _ _ project)) fun _ _ =>
    .bind (spares_unitDefault u.code) fun _ _ => .pure _

theorem spares_unitType? (u : ArgumentUnit) : Spares project (unitType? c p u) := by
  rw [unitType?]
  split
  · exact spares_pointerType? _
  · exact .pure _

variable {s t : Session} {fault : Fault}

theorem placed_of_run_error {slot : Slot}
    (h : (placeSlot p slot).run project s = (.error fault, t)) :
    ∃ m q, Placed p slot (some m) q ∧ m.make = .error fault := by
  cases opened : p.groups.open_ with
  | nil =>
    simp only [placeSlot, Groups.isOpen, opened] at h
    refine ⟨⟨slot, p.kind⟩, _, .outside opened, ?_⟩
    rcases run_bind_eq_error.mp h with hmake | ⟨_, _, -, h⟩
    · exact error_of_demand hmake
    · cases h
  | cons inner outer =>
    simp only [placeSlot, Groups.isOpen, Groups.add, opened] at h
    cases h

theorem spares_finish (g : Groups) : Fault.Spares g.finish.1 := by
  rw [Groups.finish]
  split
  · exact .error rfl
  · next inner outer _ =>
    cases inner with
    | nil => exact .error rfl
    | cons first rest => exact .ok _

theorem advances_of_run_error {x : Symbol} {remaining : List Char}
    (h : (decodeSymbol c p (x, remaining)).run project s = (.error fault, t))
    (refuses : fault.refusesNames = true) :
    ∃ m q, Advances c p x (some m) q ∧ m.make = .error fault := by
  have unspared {α : Type} {action : Gen α} {s t : Session} (spares : Spares project action)
      (hrun : action.run project s = (.error fault, t)) : False := by
    rw [spares s t fault hrun] at refuses
    cases refuses
  cases x with
  | groupStart | optional | keywordOnly | unknown => cases h
  | groupEnd =>
    rw [decodeSymbol] at h
    rcases run_bind_eq_error.mp h with hslot | ⟨slot, _, hslot, h⟩
    · exact (unspared (.demand (spares_finish p.groups)) hslot).elim
    have finished := (run_demand_eq_ok.mp hslot).1
    rcases run_bind_eq_error.mp h with hplace | ⟨_, _, -, h⟩
    · obtain ⟨m, q, placed, refused⟩ := placed_of_run_error hplace
      obtain ⟨_, _, _, _, ⟨stack⟩⟩ := p
      cases stack with
      | nil => cases finished
      | cons slots outer => exact ⟨m, q, .groupEnd rfl finished placed, refused⟩
    · cases h
  | unit u =>
    rw [decodeSymbol] at h
    rcases run_bind_eq_error.mp h with htype | ⟨found, _, -, h⟩
    · exact (unspared (spares_unitType? u) htype).elim
    cases found with
    | none => cases h
    | some type =>
      rcases run_bind_eq_error.mp h with hslot | ⟨⟨slot, optional⟩, _, hslot, h⟩
      · exact (unspared (spares_unitSlot u type) hslot).elim
      obtain ⟨default, defaulted, rfl, rfl⟩ := run_unitSlot_eq hslot
      rcases run_bind_eq_error.mp h with hplace | ⟨_, _, -, h⟩
      · obtain ⟨m, q, placed, refused⟩ := placed_of_run_error hplace
        exact ⟨m, _, .unit defaulted placed, refused⟩
      · cases h

theorem exists_refused {before : List Symbol} {done : List Placement}
    (reached : Reached c before done p) {xs : List (Symbol × List Char)}
    (h : (decodeFrom c p xs).run project s = (.error fault, t))
    (refuses : fault.refusesNames = true) :
    ∃ read more q, read <+: xs.map Prod.fst ∧ Reached c (before ++ read) (done ++ more) q ∧
      ∃ m ∈ more, m.make = .error fault := by
  induction xs generalizing before done p s with
  | nil => cases h
  | cons x xs ih =>
    rw [decodeFrom] at h
    rcases run_bind_eq_error.mp h with hx | ⟨⟨made, progress⟩, _, hx, h⟩
    · obtain ⟨m, q, advances, refused⟩ := advances_of_run_error hx refuses
      exact ⟨[x.1], [m], q, cons_prefix_cons.mpr ⟨rfl, nil_prefix⟩,
        reached.step advances, m, mem_singleton_self m, refused⟩
    · cases progress with
      | none => cases h
      | some q =>
        obtain ⟨m, advances, -⟩ := advances_of_run hx
        rcases run_bind_eq_error.mp h with hxs | ⟨_, _, -, h⟩
        · obtain ⟨read, more, r, begins, reached, n, hn, refused⟩ := ih (reached.step advances) hxs
          refine ⟨x.1 :: read, m.toList ++ more, r, ?_, ?_, n, mem_append_right _ hn, refused⟩
          · exact cons_prefix_cons.mpr ⟨rfl, begins⟩
          · simpa only [append_assoc, singleton_append] using reached
        · cases h

theorem exists_refused_of_parameters (h : (parameters c).run project s = (.error fault, t))
    (refuses : fault.refusesNames = true) :
    ∃ read done q, read <+: (symbols c.format).map Prod.fst ∧ Reached c read done q ∧
      ∃ m ∈ done, m.make = .error fault := by
  rw [parameters] at h
  rcases run_bind_eq_error.mp h with h | ⟨_, _, -, h⟩
  · exact exists_refused .start h refuses
  · cases h

end Format

end BindingStubs
