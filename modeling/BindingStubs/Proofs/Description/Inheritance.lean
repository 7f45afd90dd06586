import BindingStubs.Description.Class
import BindingStubs.Proofs.Session

set_option autoImplicit false

/-! # Functions that are not defined -/

namespace BindingStubs.Description

open Gen Implementation

def fatherAnswer (project : Project) (father : Path) (function cppClass : String) :
    Except Fault (Option String) :=
  match project.tree.read (pathOf project.tree father) with
  | .ok content => do
    match ← Source.definition? content function cppClass with
    | some body => return some body
    | none => if DescribedClass.isImplicit function then return none else throw .noCurrentElement
  | .error fault => if fault = .noSuchFile then .ok none else .error fault

namespace DescribedClass

variable {project : Project} {c : DescribedClass} {s : Session} {function cppClass : String}

def fatherIn (c : DescribedClass) (r : Recollection) : Except Fault Path :=
  match r.father with
  | some p => .ok p
  | none => c.namedFather

theorem exists_run_demand {α : Type} (step : Except Fault α) (project : Project) (s : Session) :
    ∃ t, (demand step).run project s = (step, t) ∧ t.recollection = s.recollection := by
  rcases step with fault | a
  · cases fault <;> exact ⟨_, rfl, rfl⟩
  · exact ⟨s, rfl, rfl⟩

theorem exists_run_fatherPath (c : DescribedClass) (project : Project) (s : Session) :
    ∃ t, c.fatherPath.run project s = (c.fatherIn s.recollection, t) ∧
      t.recollection =
        { s.recollection with father := (c.fatherIn s.recollection).toOption } := by
  have hget : (get : Gen Session).run project s = (.ok s, s) := rfl
  rw [fatherPath, run_bind, hget, fatherIn]
  rcases s with ⟨imports, log, unreadable, unwritable, modules, father, bodies, last⟩
  cases father with
  | some p => exact ⟨_, rfl, rfl⟩
  | none =>
    dsimp only
    obtain ⟨t, hrun, ht⟩ := exists_run_demand c.namedFather project
      ⟨imports, log, unreadable, unwritable, modules, none, bodies, last⟩
    rw [run_bind, hrun]
    cases c.namedFather with
    | error fault => exact ⟨t, rfl, ht⟩
    | ok p => exact ⟨_, rfl, congrArg (fun r : Recollection => { r with father := some p }) ht⟩

theorem exists_run_load (father : Path) (project : Project) (s : Session) :
    ∃ t, (outcome (load father)).run project s =
        (.ok ((project.tree.read (pathOf project.tree father)).map
          fun content => ⟨father, content⟩), t) ∧
      t.recollection = s.recollection := by
  obtain ⟨t, hrun, ht⟩ := exists_run_demand
    (project.tree.read (pathOf project.tree father)) project s
  have hload : (load father).run project s =
      ((project.tree.read (pathOf project.tree father)).map
        fun content => ⟨father, content⟩, t) := by
    have hread : (read : Gen Project).run project s = (.ok project, s) := rfl
    rw [load, run_bind, hread]
    dsimp only
    rw [run_bind, hrun]
    cases project.tree.read (pathOf project.tree father) <;> rfl
  refine ⟨t, ?_, ht⟩
  rw [outcome, run_tryCatch, run_bind, hload]
  cases project.tree.read (pathOf project.tree father) <;> rfl

theorem exists_run_inherited (c : DescribedClass) (project : Project) (s : Session)
    (function cppClass : String) :
    ∃ t, (c.inherited? function cppClass).run project s =
        (c.fatherIn s.recollection >>= fun p => fatherAnswer project p function cppClass, t) ∧
      t.recollection =
        { s.recollection with father := (c.fatherIn s.recollection).toOption } := by
  obtain ⟨t, hpath, ht⟩ := exists_run_fatherPath c project s
  rw [inherited?, run_bind, hpath]
  cases hfather : c.fatherIn s.recollection with
  | error fault => exact ⟨t, rfl, hfather ▸ ht⟩
  | ok p =>
    rw [hfather] at ht
    obtain ⟨u, hload, hu⟩ := exists_run_load p project t
    dsimp only
    rw [run_bind, hload]
    dsimp only
    change ∃ t, _ = (fatherAnswer project p function cppClass, t) ∧ _
    rw [fatherAnswer]
    cases project.tree.read (pathOf project.tree p) with
    | error fault =>
      dsimp only [Except.map]
      split
      next h => cases h
      next h =>
        cases h
        rw [if_pos rfl]
        cases isImplicit function with
        | true => exact ⟨u, rfl, hu.trans ht⟩
        | false => exact ⟨_, rfl, hu.trans ht⟩
      next hne h =>
        cases h
        rw [if_neg hne]
        exact ⟨u, rfl, hu.trans ht⟩
    | ok content =>
      dsimp only [Except.map]
      obtain ⟨v, hdefined, hv⟩ := exists_run_demand
        (Source.definition? content function cppClass) project u
      rw [fatherBody?, run_bind, hdefined]
      rw [hu, ht] at hv
      cases Source.definition? content function cppClass with
      | error fault => exact ⟨v, rfl, hv⟩
      | ok found =>
        cases found with
        | some body => exact ⟨v, rfl, hv⟩
        | none => cases isImplicit function <;> exact ⟨v, rfl, hv⟩

def answer (c : DescribedClass) (project : Project) (r : Recollection)
    (function cppClass : String) : Except Fault (Option String) := do
  match ← Source.definition? c.implementation.content function cppClass with
  | some body => return some body
  | none => fatherAnswer project (← c.fatherIn r) function cppClass

end DescribedClass

def Answered (project : Project) (i : Implementation) (father : Option Path)
    (function cppClass : String) (body : Option String) : Prop :=
  (body ≠ none ∧ Source.definition? i.content function cppClass = .ok body) ∨
    Source.definition? i.content function cppClass = .ok none ∧
      ∃ p, father = some p ∧ fatherAnswer project p function cppClass = .ok body

def Truthful (project : Project) (i : Implementation) (r : Recollection) : Prop :=
  ∀ entry ∈ r.bodies, Answered project i r.father entry.1.1 entry.1.2 entry.2

namespace DescribedClass

section
variable {project : Project} {c : DescribedClass} {r : Recollection} {function cppClass : String}
variable {body : Option String} {p : Path}

theorem fatherIn_of_some (h : r.father = some p) : c.fatherIn r = .ok p := by
  rw [fatherIn, h]

theorem answer_of_answered
    (h : Answered project c.implementation r.father function cppClass body) :
    c.answer project r function cppClass = .ok body := by
  rcases h with ⟨hne, hown⟩ | ⟨hown, p, hp, hfather⟩
  · obtain ⟨text, rfl⟩ := Option.ne_none_iff_exists'.1 hne
    rw [answer, hown]
    rfl
  · rw [answer, hown, fatherIn_of_some hp]
    exact hfather

theorem exists_run_lookUp (c : DescribedClass) (project : Project) (s : Session)
    (function cppClass : String) :
    ∃ t, (c.lookUp function cppClass).run project s =
        (c.answer project s.recollection function cppClass, t) ∧
      t.recollection.bodies = s.recollection.bodies ∧
      (∀ p, s.recollection.father = some p → t.recollection.father = some p) ∧
      ∀ body, c.answer project s.recollection function cppClass = .ok body →
        Answered project c.implementation t.recollection.father function cppClass body := by
  obtain ⟨t, hdefined, ht⟩ := exists_run_demand
    (Source.definition? c.implementation.content function cppClass) project s
  rw [lookUp, run_bind, hdefined, answer]
  cases hown : Source.definition? c.implementation.content function cppClass with
  | error fault => exact ⟨t, rfl, ht ▸ rfl, fun _ => ht ▸ id, fun _ h => by cases h⟩
  | ok found =>
    cases found with
    | some text =>
      refine ⟨t, rfl, ht ▸ rfl, fun _ => ht ▸ id, fun body h => ?_⟩
      obtain rfl : some text = body := Except.ok.inj h
      exact .inl ⟨Option.some_ne_none text, hown⟩
    | none =>
      obtain ⟨u, hrun, hu⟩ := exists_run_inherited c project t function cppClass
      rw [ht] at hrun hu
      refine ⟨u, hrun, hu ▸ rfl, fun p hp => ?_, fun body h => .inr ⟨hown, ?_⟩⟩
      · rw [hu, fatherIn_of_some hp]
        rfl
      · change (c.fatherIn s.recollection >>= _) = _ at h
        cases hfather : c.fatherIn s.recollection with
        | error fault =>
          rw [hfather] at h
          cases h
        | ok p =>
          rw [hfather] at h hu
          exact ⟨p, by rw [hu]; rfl, h⟩

theorem run_functionBody (c : DescribedClass) (project : Project) {s : Session}
    (h : Truthful project c.implementation s.recollection) (function cppClass : String) :
    ((c.functionBody? function cppClass).run project s).1 =
        c.answer project s.recollection function cppClass ∧
      Truthful project c.implementation
        ((c.functionBody? function cppClass).run project s).2.recollection := by
  have hget : (get : Gen Session).run project s = (.ok s, s) := rfl
  rw [functionBody?, run_bind, hget]
  dsimp only
  cases hfind : s.recollection.bodies.find? fun entry => entry.1 == (function, cppClass) with
  | some entry =>
    obtain ⟨⟨f, k⟩, body⟩ := entry
    obtain ⟨rfl, rfl⟩ : f = function ∧ k = cppClass := by
      simpa using List.find?_some hfind
    exact ⟨(answer_of_answered (h _ (List.mem_of_find?_eq_some hfind))).symm, h⟩
  | none =>
    obtain ⟨t, hrun, hbodies, hstays, hanswered⟩ :=
      exists_run_lookUp c project s function cppClass
    have hkept : Truthful project c.implementation t.recollection := by
      intro entry hentry
      rw [hbodies] at hentry
      rcases h entry hentry with hown | ⟨hown, p, hp, hfather⟩
      · exact .inl hown
      · exact .inr ⟨hown, p, hstays p hp, hfather⟩
    dsimp only
    rw [run_bind, hrun]
    cases hanswer : c.answer project s.recollection function cppClass with
    | error fault => exact ⟨rfl, hkept⟩
    | ok body => exact ⟨rfl, List.forall_mem_cons.2 ⟨hanswered body hanswer, hkept⟩⟩

end

end DescribedClass

/-- The sessions in which the classes of a file are written: questions are asked, and all else
leaves what is remembered of them alone. -/
inductive Reached (project : Project) (i : Implementation) : Session → Prop
  | start {s : Session} (h : s.recollection = {}) : Reached project i s
  | ask {s : Session} (h : Reached project i s) (c : DescribedClass) (hc : c.implementation = i)
      (function cppClass : String) :
      Reached project i ((c.functionBody? function cppClass).run project s).2
  | other {s t : Session} (h : Reached project i s)
      (hfather : t.recollection.father = s.recollection.father)
      (hbodies : t.recollection.bodies = s.recollection.bodies) : Reached project i t

theorem Reached.truthful {project : Project} {i : Implementation} {s : Session}
    (h : Reached project i s) : Truthful project i s.recollection := by
  induction h with
  | start h =>
    rw [h]
    exact List.forall_mem_nil _
  | ask h c hc function cppClass ih =>
    subst hc
    exact (c.run_functionBody project ih function cppClass).2
  | other h hfather hbodies ih =>
    rw [Truthful, hfather, hbodies]
    exact ih

def Undefined (content function cppClass : String) : Prop :=
  Source.definition? content function cppClass = .ok none

instance (content function cppClass : String) : Decidable (Undefined content function cppClass) :=
  decidable_of_iff ((Source.definition? content function cppClass).toOption = some none) (by
    rw [Undefined]
    cases Source.definition? content function cppClass <;> simp [Except.toOption])

theorem fatherAnswer_of_undefined {project : Project} {p : Path} {function cppClass : String}
    (himplicit : DescribedClass.isImplicit function = false)
    (h : ∀ content, project.tree.read (pathOf project.tree p) = .ok content →
      Undefined content function cppClass) :
    (fatherAnswer project p function cppClass = .ok none ↔
      project.tree.read (pathOf project.tree p) = .error .noSuchFile) ∧
    ∀ content, project.tree.read (pathOf project.tree p) = .ok content →
      fatherAnswer project p function cppClass = .error .noCurrentElement := by
  rw [fatherAnswer]
  cases hread : project.tree.read (pathOf project.tree p) with
  | error fault =>
    dsimp only
    constructor
    · split
      next hfault => simp [hfault]
      next hfault => simp [hfault]
    · rintro _ ⟨⟩
  | ok content =>
    have hnone := h content hread
    rw [Undefined] at hnone
    dsimp only
    rw [hnone, himplicit]
    refine ⟨⟨?_, ?_⟩, fun _ _ => rfl⟩
    · rintro ⟨⟩
    · rintro ⟨⟩

/-- A function that neither a class nor its father defines is answered with nothing exactly if the
father is named and its file is missing. If the file is there, the search fails. -/
theorem functionBody_of_undefined {project : Project} {s : Session} (c : DescribedClass)
    {function cppClass : String} (hs : Reached project c.implementation s)
    (himplicit : DescribedClass.isImplicit function = false)
    (hown : Undefined c.implementation.content function cppClass)
    (hfather : ∀ p content, c.fatherIn s.recollection = .ok p →
      project.tree.read (pathOf project.tree p) = .ok content →
        Undefined content function cppClass) :
    (((c.functionBody? function cppClass).run project s).1 = .ok none ↔
      ∃ p, c.fatherIn s.recollection = .ok p ∧
        project.tree.read (pathOf project.tree p) = .error .noSuchFile) ∧
    ∀ p content, c.fatherIn s.recollection = .ok p →
      project.tree.read (pathOf project.tree p) = .ok content →
        ((c.functionBody? function cppClass).run project s).1 = .error .noCurrentElement := by
  have hanswer : ((c.functionBody? function cppClass).run project s).1 =
      c.fatherIn s.recollection >>= fun p => fatherAnswer project p function cppClass := by
    rw [(c.run_functionBody project hs.truthful function cppClass).1, DescribedClass.answer, hown]
    rfl
  rw [hanswer]
  cases hp : c.fatherIn s.recollection with
  | error fault =>
    refine ⟨⟨?_, ?_⟩, ?_⟩
    · rintro ⟨⟩
    · rintro ⟨_, ⟨⟩, -⟩
    · rintro _ _ ⟨⟩
  | ok p =>
    obtain ⟨hmissing, hthere⟩ := fatherAnswer_of_undefined himplicit fun content =>
      hfather p content hp
    refine ⟨hmissing.trans ⟨fun hread => ⟨p, rfl, hread⟩, ?_⟩, ?_⟩
    · rintro ⟨_, ⟨⟩, hread⟩
      exact hread
    · rintro _ content ⟨⟩ hread
      exact hthere content hread

def bareClass : DescribedClass where
  implementation := { path := ⟨["src", "App", "APy.xml"]⟩, content := "int x;" }
  element := .node "PythonExport" [("FatherInclude", "Base/PyObjectBase.h")] "" []
  fullName := "FreeCAD.A"

theorem functionBody_of_undefined_alone :
    ((bareClass.functionBody? "foo" "").run Project.empty {}).1 = .ok none := by
  have hmissing : Project.empty.tree.read (pathOf Project.empty.tree
      ⟨["src", "Base", "PyObjectBase.xml"]⟩) = .error .noSuchFile := by rfl
  have hfather : bareClass.fatherIn {} = .ok ⟨["src", "Base", "PyObjectBase.xml"]⟩ := by rfl
  refine (functionBody_of_undefined bareClass (.start rfl) (by decide) (by decide +kernel) ?_).1.2
    ⟨_, hfather, hmissing⟩
  intro p content hp hread
  cases hfather.symm.trans hp
  cases hmissing.symm.trans hread

def baseProject : Project :=
  { Project.empty with
    tree.files := [(⟨["src", "Base", "PyObjectBase.cpp"]⟩, "int y;".toList.map (·.toNat.toUInt8))] }

theorem functionBody_refused :
    Undefined bareClass.implementation.content "foo" "" ∧ Undefined "int y;" "foo" "" ∧
      (baseProject.tree.read (pathOf baseProject.tree
        ⟨["src", "Base", "PyObjectBase.xml"]⟩)).toOption = some "int y;" ∧
      ((bareClass.functionBody? "foo" "").run baseProject {}).1.isOk = false := by
  decide +kernel

end BindingStubs.Description
