import BindingStubs.Fault
import Mathlib.Data.List.Basic

set_option autoImplicit false

/-! # Sequences of steps that may fail -/

namespace BindingStubs.Fault

open List

variable {α β : Type}

def AllOk (steps : List (Except Fault α)) : Prop := ∀ step ∈ steps, ∃ a, step = .ok a

theorem allOk_append (steps more : List (Except Fault α)) :
    AllOk (steps ++ more) ↔ AllOk steps ∧ AllOk more :=
  forall_mem_append

theorem untilFault_map_ok (values : List α) : untilFault (values.map .ok) = (values, none) := by
  induction values with
  | nil => rfl
  | cons a values ih => rw [map_cons, untilFault, ih]

theorem untilFault_snd_eq_none_iff (steps : List (Except Fault α)) :
    (untilFault steps).2 = none ↔ AllOk steps := by
  induction steps with
  | nil => simp [untilFault, AllOk]
  | cons step steps ih =>
    cases step with
    | error f => simp [untilFault, AllOk]
    | ok a =>
      rw [untilFault, AllOk, forall_mem_cons]
      exact ih.trans ⟨fun h => ⟨⟨a, rfl⟩, h⟩, fun h => h.2⟩

theorem eq_map_ok_of_untilFault {steps : List (Except Fault α)} (h : (untilFault steps).2 = none) :
    steps = (untilFault steps).1.map .ok := by
  induction steps with
  | nil => rfl
  | cons step steps ih =>
    cases step with
    | error f => simp [untilFault] at h
    | ok a =>
      rw [untilFault] at h ⊢
      rw [map_cons, ← ih h]

theorem mem_of_mem_untilFault {steps : List (Except Fault α)} {a : α}
    (h : a ∈ (untilFault steps).1) : .ok a ∈ steps := by
  induction steps with
  | nil => simp [untilFault] at h
  | cons step steps ih =>
    cases step with
    | error f => simp [untilFault] at h
    | ok b =>
      rw [untilFault, mem_cons] at h
      rcases h with rfl | h
      · exact mem_cons_self
      · exact mem_cons_of_mem _ (ih h)

/-- The steps succeed exactly under a condition, and then give exactly these values. -/
structure Delivers (steps : List (Except Fault α)) (condition : Prop) (values : List α) :
    Prop where
  steps_eq : condition → steps = values.map .ok
  of_allOk : AllOk steps → condition

namespace Delivers

variable {steps more : List (Except Fault α)} {p q : Prop} {values others : List α}

theorem allOk_iff (h : Delivers steps p values) : AllOk steps ↔ p := by
  constructor
  · exact h.of_allOk
  · intro hp step hstep
    rw [h.steps_eq hp] at hstep
    obtain ⟨a, _, rfl⟩ := mem_map.1 hstep
    exact ⟨a, rfl⟩

theorem untilFault_snd (h : Delivers steps p values) : (untilFault steps).2 = none ↔ p :=
  (untilFault_snd_eq_none_iff steps).trans h.allOk_iff

theorem untilFault_fst (h : Delivers steps p values) (hp : p) : (untilFault steps).1 = values := by
  rw [h.steps_eq hp, untilFault_map_ok]

theorem nil : Delivers ([] : List (Except Fault α)) True [] := ⟨fun _ => rfl, fun _ => trivial⟩

theorem single {step : Except Fault α} {a : α} (h : ∀ b, step = .ok b ↔ p ∧ b = a) :
    Delivers [step] p [a] := by
  refine ⟨fun hp => ?_, fun hok => ?_⟩
  · rw [(h a).2 ⟨hp, rfl⟩]
    rfl
  · obtain ⟨b, hb⟩ := hok step mem_cons_self
    exact ((h b).1 hb).1

theorem append (h : Delivers steps p values) (hmore : Delivers more q others) :
    Delivers (steps ++ more) (p ∧ q) (values ++ others) := by
  refine ⟨fun hpq => ?_, fun hok => ?_⟩
  · rw [h.steps_eq hpq.1, hmore.steps_eq hpq.2, map_append]
  · obtain ⟨hsteps, hrest⟩ := (allOk_append _ _).1 hok
    exact ⟨h.of_allOk hsteps, hmore.of_allOk hrest⟩

theorem congr (h : Delivers steps p values) (hpq : p ↔ q) (hvalues : q → values = others) :
    Delivers steps q others :=
  ⟨fun hq => hvalues hq ▸ h.steps_eq (hpq.2 hq), fun hok => hpq.1 (h.of_allOk hok)⟩

theorem flatMap {items : List β} {f : β → List (Except Fault α)} {p : β → Prop}
    {g : β → List α} (h : ∀ b ∈ items, Delivers (f b) (p b) (g b)) :
    Delivers (items.flatMap f) (∀ b ∈ items, p b) (items.flatMap g) := by
  induction items with
  | nil => exact nil.congr (by simp) fun _ => rfl
  | cons b items ih =>
    obtain ⟨hfirst, hrest⟩ := forall_mem_cons.1 h
    rw [flatMap_cons, flatMap_cons]
    exact (hfirst.append (ih hrest)).congr forall_mem_cons.symm fun _ => rfl

theorem map {items : List β} {f : β → Except Fault α} {p : β → Prop} {g : β → α}
    (h : ∀ b ∈ items, ∀ a, f b = .ok a ↔ p b ∧ a = g b) :
    Delivers (items.map f) (∀ b ∈ items, p b) (items.map g) := by
  rw [map_eq_flatMap, map_eq_flatMap]
  exact flatMap fun b hb => single (h b hb)

end Delivers

theorem bind_eq_ok {x : Except Fault α} {f : α → Except Fault β} {b : β} :
    (x >>= f) = .ok b ↔ ∃ a, x = .ok a ∧ f a = .ok b := by
  cases x with
  | error fault => exact ⟨fun h => (by cases h), fun ⟨_, h, _⟩ => (by cases h)⟩
  | ok a => exact ⟨fun h => ⟨a, rfl, h⟩, fun ⟨_, h, hf⟩ => (by cases h; exact hf)⟩

theorem eq_ok_of_toOption {x : Except Fault α} {a : α} (h : x.toOption = some a) :
    x = .ok a := by
  cases x with
  | error fault => cases h
  | ok b => exact congrArg Except.ok (Option.some.inj h)

theorem collect_cons_ok (a : α) (items : List (Except Fault α)) :
    collect (.ok a :: items) = (collect items).map (a :: ·) := by
  rw [collect]
  cases collect items <;> rfl

theorem collect_map_ok (values : List α) : collect (values.map .ok) = .ok values := by
  induction values with
  | nil => rfl
  | cons a values ih => rw [map_cons, collect_cons_ok, ih]; rfl

theorem mem_of_mem_collect {items : List (Except Fault α)} {values : List α} {a : α}
    (h : collect items = .ok values) (ha : a ∈ values) : .ok a ∈ items := by
  induction items generalizing values with
  | nil =>
    cases h
    cases ha
  | cons item items ih =>
    rw [collect] at h
    obtain ⟨first, rfl, h⟩ := bind_eq_ok.1 h
    have htail : (collect items >>= fun rest => pure (first :: rest)) = .ok values := h
    obtain ⟨rest, hrest, heq⟩ := bind_eq_ok.1 htail
    cases heq
    rcases mem_cons.1 ha with rfl | ha
    · exact mem_cons_self
    · exact mem_cons_of_mem _ (ih hrest ha)

end BindingStubs.Fault
