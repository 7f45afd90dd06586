import BindingStubs.Proofs.OrderedSet
import BindingStubs.Proofs.Session

set_option autoImplicit false

/-! # Actions that agree or add imports -/

namespace BindingStubs.Gen

variable {α β : Type} {project : Project} {fault : Fault}

/-- The outcome of the first action is the fault or the outcome of the second. -/
def AgreesUnless (project : Project) (fault : Fault) (x y : Gen α) : Prop :=
  ∀ s t, (x.run project s).1 = .error fault ∨ (x.run project s).1 = (y.run project t).1

def Ends (project : Project) (x : Gen α) (outcome : Except Fault α) : Prop :=
  ∀ s, (x.run project s).1 = outcome

variable {a : α}

theorem Ends.bind {x : Gen α} {f : α → Gen β} {outcome : Except Fault β}
    (hx : Ends project x (.ok a)) (hf : Ends project (f a) outcome) :
    Ends project (x >>= f) outcome := by
  intro s
  have hfirst := hx s
  rw [run_bind]
  rcases hs : x.run project s with ⟨first, t⟩
  rw [hs] at hfirst
  obtain rfl : first = .ok a := hfirst
  exact hf t

theorem Ends.bind_error {x : Gen α} {f : α → Gen β} {fault : Fault}
    (hx : Ends project x (.error fault)) : Ends project (x >>= f) (.error fault) := by
  intro s
  have hfirst := hx s
  rw [run_bind]
  rcases hs : x.run project s with ⟨first, t⟩
  rw [hs] at hfirst
  obtain rfl : first = .error fault := hfirst
  rfl

variable {outcome : Except Fault α}

theorem Ends.bind_pure {x : Gen α} (hx : Ends project x outcome) (f : α → β) :
    Ends project (x >>= fun a => pure (f a)) (outcome.map f) := by
  cases outcome with
  | ok a => exact hx.bind fun _ => rfl
  | error fault => exact hx.bind_error

variable {handle : Fault → Gen α}

theorem Ends.tryCatch_ok {x : Gen α} (hx : Ends project x (.ok a)) :
    Ends project (tryCatch x handle) (.ok a) := by
  intro s
  have hfirst := hx s
  rw [run_tryCatch]
  rcases hs : x.run project s with ⟨first, t⟩
  rw [hs] at hfirst
  obtain rfl : first = .ok a := hfirst
  rfl

theorem Ends.tryCatch_error {x : Gen α} {fault : Fault} (hx : Ends project x (.error fault))
    (hhandle : Ends project (handle fault) outcome) : Ends project (tryCatch x handle) outcome := by
  intro s
  have hfirst := hx s
  rw [run_tryCatch]
  rcases hs : x.run project s with ⟨first, t⟩
  rw [hs] at hfirst
  obtain rfl : first = .error fault := hfirst
  exact hhandle t

theorem Ends.element {x : Gen α} (hx : Ends project x outcome)
    (hleft : outcome ≠ .error .nothingLeft) : Ends project (element x) outcome := by
  cases outcome with
  | ok a => exact hx.tryCatch_ok
  | error fault =>
    refine hx.tryCatch_error fun s => ?_
    cases fault <;> first | rfl | exact absurd rfl hleft

def Gives (project : Project) (x : Gen α) (a : α) : Prop :=
  ∃ s t, x.run project s = (.ok a, t)

theorem Gives.of_outcome {x : Gen α} {s : Session} (h : (x.run project s).1 = .ok a) :
    Gives project x a :=
  ⟨s, (x.run project s).2, Prod.ext h rfl⟩

theorem Gives.ends {x : Gen α} (h : Gives project x a) (hx : Indifferent x) :
    Ends project x (.ok a) := by
  obtain ⟨s, t, h⟩ := h
  intro u
  rw [hx project u s, h]

theorem Gives.of_pure {a b : α} (h : Gives project (pure a) b) : b = a := by
  obtain ⟨s, t, h⟩ := h
  cases h
  rfl

theorem not_gives_throw {f : Fault} : ¬ Gives project (throw f) a := by
  rintro ⟨s, t, h⟩
  cases h

theorem Gives.of_demand {step : Except Fault α} (h : Gives project (demand step) a) :
    step = .ok a := by
  obtain ⟨s, t, h⟩ := h
  exact (run_demand_eq_ok.1 h).1

namespace AgreesUnless

theorem refl {x : Gen α} (h : Indifferent x) : AgreesUnless project fault x x :=
  fun s t => .inr (h project s t)

theorem pure (a : α) : AgreesUnless project fault (Pure.pure a) (Pure.pure a) :=
  refl (.pure a)

variable {x y : Gen α}

theorem of_fault (h : Ends project x (.error fault)) : AgreesUnless project fault x y :=
  fun s _ => .inl (h s)

theorem of_ends (hx : Ends project x outcome) (hy : Ends project y outcome) :
    AgreesUnless project fault x y :=
  fun s t => .inr ((hx s).trans (hy t).symm)

theorem fault_of_fault (h : AgreesUnless project fault x y) (hy : Ends project y (.error fault)) :
    Ends project x (.error fault) := by
  intro s
  rcases h s s with hx | hx
  · exact hx
  · exact hx.trans (hy s)

theorem of_settled {x y z : Gen α} (hy : AgreesUnless project fault x y)
    (hz : AgreesUnless project fault x z) (h : ¬ Ends project x (.error fault)) :
    AgreesUnless project fault y z := by
  obtain ⟨u, hu⟩ := Classical.not_forall.1 h
  intro s t
  exact .inr (((hy u s).resolve_left hu).symm.trans ((hz u t).resolve_left hu))

theorem trans {x y z : Gen α} (hxy : AgreesUnless project fault x y)
    (hyz : AgreesUnless project fault y z) : AgreesUnless project fault x z := by
  intro s t
  rcases hxy s s with hx | hx
  · exact .inl hx
  · rw [hx]
    exact hyz s t

theorem antisymm (hxy : AgreesUnless project fault x y) (hyx : AgreesUnless project fault y x)
    (s t : Session) : (x.run project s).1 = (y.run project t).1 := by
  rcases hxy s t with hx | hx
  · rcases hyx t s with hy | hy
    · exact hx.trans hy.symm
    · exact hy.symm
  · exact hx

theorem eq_of_ne {other : Fault} (h : AgreesUnless project fault x y)
    (hother : AgreesUnless project other x y) (hne : fault ≠ other) (s t : Session) :
    (x.run project s).1 = (y.run project t).1 := by
  rcases h s t with hx | hx
  · rcases hother s t with hx' | hx'
    · rw [hx, Except.error.injEq] at hx'
      exact absurd hx' hne
    · exact hx'
  · exact hx

theorem ends (h : AgreesUnless project fault x y) (hx : Gives project x a) :
    Ends project y (.ok a) := by
  obtain ⟨s, u, hx⟩ := hx
  intro t
  have houtcome := h s t
  rw [hx] at houtcome
  rcases houtcome with hfault | heq
  · cases hfault
  · exact heq.symm

theorem bind {f g : α → Gen β} (hx : AgreesUnless project fault x y)
    (hf : ∀ a, Gives project x a → AgreesUnless project fault (f a) (g a)) :
    AgreesUnless project fault (x >>= f) (y >>= g) := by
  intro s t
  have hparts := hx s t
  rw [run_bind, run_bind]
  rcases hs : x.run project s with ⟨outcome, s'⟩
  rcases ht : y.run project t with ⟨outcome', t'⟩
  rw [hs, ht] at hparts
  rcases hparts with hfault | heq
  · left
    obtain rfl : outcome = .error fault := hfault
    rfl
  · obtain rfl : outcome = outcome' := heq
    cases outcome with
    | error f => exact .inr rfl
    | ok a => exact hf a ⟨s, s', hs⟩ s' t'

theorem tryCatch (hx : AgreesUnless project fault x y) (hfault : handle fault = throw fault)
    (hhandle : ∀ f, Indifferent (handle f)) :
    AgreesUnless project fault (tryCatch x handle) (tryCatch y handle) := by
  intro s t
  have hparts := hx s t
  rw [run_tryCatch, run_tryCatch]
  rcases hs : x.run project s with ⟨outcome, s'⟩
  rcases ht : y.run project t with ⟨outcome', t'⟩
  rw [hs, ht] at hparts
  rcases hparts with heq | heq
  · left
    obtain rfl : outcome = .error fault := heq
    change ((handle fault).run project s').1 = _
    rw [hfault]
    rfl
  · obtain rfl : outcome = outcome' := heq
    cases outcome with
    | error f => exact .inr (hhandle f project s' t')
    | ok a => exact .inr rfl

theorem element (hx : AgreesUnless project fault x y) (hfault : fault ≠ .nothingLeft) :
    AgreesUnless project fault (element x) (element y) := by
  refine hx.tryCatch ?_ fun f => ?_
  · cases fault <;> first | rfl | exact absurd rfl hfault
  · cases f <;> exact .throw _

end AgreesUnless

variable {s t : Session}

def Extends (s t : Session) : Prop := s.imports.toList ⊆ t.imports.toList

theorem Extends.refl (s : Session) : Extends s s := List.Subset.refl _

theorem Extends.trans {u : Session} (hst : Extends s t) (htu : Extends t u) : Extends s u :=
  List.Subset.trans hst htu

/-- From a given session an action loses no import, and a value has a property in the session that
the action leaves. -/
def Adds (project : Project) (s : Session) (x : Gen α) (holds : α → Session → Prop) : Prop :=
  Extends s (x.run project s).2 ∧ ∀ a, (x.run project s).1 = .ok a → holds a (x.run project s).2

namespace Adds

variable {holds holds' : α → Session → Prop} {then_ : β → Session → Prop}

theorem pure {a : α} (h : holds a s) : Adds project s (Pure.pure a) holds := by
  refine ⟨Extends.refl s, fun b hb => ?_⟩
  cases hb
  exact h

theorem throw (f : Fault) : Adds project s (MonadExcept.throw f) holds :=
  ⟨Extends.refl s, fun _ hb => by cases hb⟩

theorem imp {x : Gen α} (h : Adds project s x holds)
    (himp : ∀ a t, Extends s t → holds a t → holds' a t) : Adds project s x holds' :=
  ⟨h.1, fun a ha => himp a _ h.1 (h.2 a ha)⟩

theorem bind {x : Gen α} {f : α → Gen β} (hx : Adds project s x holds)
    (hf : ∀ a t, Gives project x a → Extends s t → holds a t → Adds project t (f a) then_) :
    Adds project s (x >>= f) then_ := by
  rw [Adds, run_bind]
  rcases hrun : x.run project s with ⟨outcome, t⟩
  have hext := hx.1
  have hval := hx.2
  rw [hrun] at hext hval
  cases outcome with
  | error fault => exact ⟨hext, fun _ hb => by cases hb⟩
  | ok a =>
    obtain ⟨hmore, hthen⟩ := hf a t ⟨s, t, hrun⟩ hext (hval a rfl)
    exact ⟨hext.trans hmore, hthen⟩

theorem tryCatch {x : Gen α} {handle : Fault → Gen α} (hx : Adds project s x holds)
    (hhandle : ∀ f t, Extends s t → Adds project t (handle f) holds) :
    Adds project s (MonadExcept.tryCatch x handle) holds := by
  rw [Adds, run_tryCatch]
  rcases hrun : x.run project s with ⟨outcome, t⟩
  have hext := hx.1
  have hval := hx.2
  rw [hrun] at hext hval
  cases outcome with
  | ok a => exact ⟨hext, hval⟩
  | error fault =>
    obtain ⟨hmore, hval⟩ := hhandle fault t hext
    exact ⟨hext.trans hmore, hval⟩

theorem element {x : Gen α} (hx : Adds project s x holds) :
    Adds project s (Gen.element x) holds := by
  refine hx.tryCatch fun f t _ => ?_
  cases f <;> exact throw _

theorem need (name : String) :
    Adds project s (Gen.need name) fun _ t => name ∈ t.imports.toList := by
  refine ⟨fun M hM => ?_, fun _ _ => ?_⟩
  · exact (OrderedSet.mem_insert _ _ _).2 (.inl hM)
  · exact (OrderedSet.mem_insert _ _ _).2 (.inr rfl)

theorem needAll (names : List String) :
    Adds project s (Gen.needAll names) fun _ t => names ⊆ t.imports.toList := by
  refine ⟨fun M hM => ?_, fun _ _ M hM => ?_⟩
  · exact OrderedSet.mem_insertAll.2 (.inl hM)
  · exact OrderedSet.mem_insertAll.2 (.inr hM)

theorem report (level : LogLevel) (reporter : Reporter) (text : String) :
    Adds project s (Gen.report level reporter text) fun _ _ => True :=
  ⟨Extends.refl s, fun _ _ => trivial⟩

theorem demand (step : Except Fault α) : Adds project s (Gen.demand step) fun _ _ => True := by
  cases step with
  | ok a => exact pure trivial
  | error f =>
    cases f <;> first | exact throw _ | exact (report _ _ _).bind fun _ _ _ _ _ => throw _

end Adds

end BindingStubs.Gen
