import BindingStubs.Session

set_option autoImplicit false

/-! # Runs of actions -/

namespace BindingStubs

def Project.empty : Project :=
  { tree := { files := [] }, descriptions := [], registry := {}, exceptions := [] }

namespace Gen

variable {α β : Type}

@[simp]
theorem run_pure (a : α) (project : Project) (s : Session) :
    (pure a : Gen α).run project s = (.ok a, s) := rfl

theorem run_bind (x : Gen α) (f : α → Gen β) (project : Project) (s : Session) :
    (x >>= f).run project s = match x.run project s with
      | (.ok a, t) => (f a).run project t
      | (.error fault, t) => (.error fault, t) := by
  change StateT.run (ExceptT.run (ReaderT.run (x >>= f) project)) s = _
  rw [ReaderT.run_bind, ExceptT.run_bind, StateT.run_bind, run]
  cases StateT.run (ReaderT.run x project).run s with
  | mk outcome t => cases outcome <;> rfl

theorem run_bind_eq_ok {x : Gen α} {f : α → Gen β} {project : Project} {s t : Session} {b : β} :
    (x >>= f).run project s = (.ok b, t) ↔
      ∃ a u, x.run project s = (.ok a, u) ∧ (f a).run project u = (.ok b, t) := by
  rw [run_bind]
  constructor
  · intro h
    split at h
    · next a u hx => exact ⟨a, u, hx, h⟩
    · cases h
  · rintro ⟨a, u, hx, hf⟩
    rw [hx]
    exact hf

theorem run_tryCatch (x : Gen α) (handle : Fault → Gen α) (project : Project) (s : Session) :
    (tryCatch x handle).run project s = match x.run project s with
      | (.ok a, t) => (.ok a, t)
      | (.error fault, t) => (handle fault).run project t := by
  change StateT.run (ExceptT.run (tryCatch (ReaderT.run x project)
    fun fault => ReaderT.run (handle fault) project)) s = _
  rw [ExceptT.run_tryCatch, StateT.run_bind, run]
  cases StateT.run (ReaderT.run x project).run s with
  | mk outcome t => cases outcome <;> rfl

theorem run_demand_error (f : Fault) (project : Project) (s : Session) :
    ((demand (.error f) : Gen α).run project s).1 = .error f := by
  cases f <;> rfl

theorem run_demand_eq_ok {step : Except Fault α} {project : Project} {s t : Session} {a : α} :
    (demand step).run project s = (.ok a, t) ↔ step = .ok a ∧ t = s := by
  cases step with
  | ok b =>
    constructor
    · intro h
      cases h
      exact ⟨rfl, rfl⟩
    · rintro ⟨h, rfl⟩
      cases h
      rfl
  | error f =>
    constructor
    · intro h
      have outcome := congrArg Prod.fst h
      rw [run_demand_error] at outcome
      cases outcome
    · rintro ⟨h, -⟩
      cases h

def Indifferent (x : Gen α) : Prop :=
  ∀ project s t, (x.run project s).1 = (x.run project t).1

namespace Indifferent

theorem pure (a : α) : Indifferent (Pure.pure a : Gen α) := fun _ _ _ => rfl

theorem throw (f : Fault) : Indifferent (MonadExcept.throw f : Gen α) := fun _ _ _ => rfl

theorem read : Indifferent (MonadReader.read : Gen Project) := fun _ _ _ => rfl

theorem report (level : LogLevel) (reporter : Reporter) (text : String) :
    Indifferent (Gen.report level reporter text) := fun _ _ _ => rfl

theorem need (name : String) : Indifferent (Gen.need name) := fun _ _ _ => rfl

theorem needAll (names : List String) : Indifferent (Gen.needAll names) := fun _ _ _ => rfl

theorem bind {x : Gen α} {f : α → Gen β} (hx : Indifferent x) (hf : ∀ a, Indifferent (f a)) :
    Indifferent (x >>= f) := by
  intro project s t
  have same := hx project s t
  rw [run_bind, run_bind]
  rcases hs : x.run project s with ⟨outcome, s'⟩
  rcases ht : x.run project t with ⟨outcome', t'⟩
  rw [hs, ht] at same
  obtain rfl : outcome = outcome' := same
  cases outcome with
  | error fault => rfl
  | ok a => exact hf a project s' t'

theorem demand (step : Except Fault α) : Indifferent (Gen.demand step) := by
  cases step with
  | ok a => exact pure a
  | error f =>
    cases f with
    | signatureRefused shown => exact bind (report _ _ _) fun _ => throw _
    | _ => exact throw _

end Indifferent

end Gen

end BindingStubs

namespace BindingStubs.SourceTree

def oneFile (name content : String) : SourceTree :=
  { files := [(⟨["src", name]⟩, content.toList.map (·.toNat.toUInt8))] }

theorem cppFiles_oneFile {name : String} (content : String)
    (h : Text.endsWith name ".cpp" = true) :
    (oneFile name content).cppFiles root = [⟨["src", name]⟩] := by
  have hbelow : (oneFile name content).below root = [["src", name]] := by
    simp [below, locate, isDirectoryAt, oneFile, root, List.eraseDups_cons]
  rw [cppFiles, withEnding, hbelow, List.filter_cons_of_pos (by simpa using h), List.filter_nil,
    List.perm_singleton.1 ((oneFile name content).listing.perm _), List.map_singleton]

end BindingStubs.SourceTree
