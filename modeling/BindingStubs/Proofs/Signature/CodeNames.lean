import BindingStubs.Proofs.Format.DistinctNames
import BindingStubs.Proofs.Format.Refusals
import BindingStubs.Signature.Found

set_option autoImplicit false

/-! # Names in signatures found in code -/

namespace BindingStubs.Signature

open Gen Format List
open Text (IsParameterName)

structure NamesValid (signature : Signature) : Prop where
  distinct : (signature.parameters.map Parameter.name).Nodup
  valid : ∀ a ∈ signature.parameters, IsParameterName a.name

theorem map_name_adjustSelf (ps : List Parameter) :
    (adjustSelf ps).map Parameter.name = ps.map Parameter.name := by
  match ps with
  | [] => rfl
  | [p] =>
    rw [adjustSelf]
    split <;> rfl
  | p :: q :: rest =>
    rw [adjustSelf]
    split <;> rfl

variable {f : FunctionCode} {style : ParseStyle} {start : Nat} {call : ParseCall}
  {result : Signature} {project : Project} {s t : Session}

section
variable (made : ParseCall.make f.path f.body start style f.firstNumber = .ok call)

include made

theorem parsedAt_eq : parsedAt f style start =
    Format.parameters call >>= fun ps => demand (ofParameters ps) := by
  rw [parsedAt, made]
  rfl

theorem parsed_of_run {signatures : List Signature}
    (h : (parsedAtAll f result [(style, start)]).run project s = (.ok signatures, t)) :
    ∃ ps u signature, (Format.parameters call).run project s = (.ok ps, u) ∧
      signatures = [signature] ∧
      signature.parameters.map Parameter.name = ps.map Parameter.name := by
  rw [parsedAtAll, parsedAt_eq made] at h
  obtain ⟨parsed, _, hparsed, h⟩ := run_bind_eq_ok.mp h
  obtain ⟨joined, _, hjoined, h⟩ := run_bind_eq_ok.mp h
  obtain ⟨ps, u, hps, hparsed⟩ := run_bind_eq_ok.mp hparsed
  cases h
  have first := (make_eq_ok_iff.mp (run_demand_eq_ok.mp hparsed).1).2
  have second := (make_eq_ok_iff.mp (run_demand_eq_ok.mp hjoined).1).2
  refine ⟨ps, u, joined, hps, rfl, ?_⟩
  rw [second, first]
  exact (map_name_adjustSelf _).trans (map_name_adjustSelf _)

theorem refused_of_run {fault : Fault}
    (h : (parsedAtAll f result [(style, start)]).run project s = (.error fault, t)) :
    (∃ u, (Format.parameters call).run project s = (.error fault, u)) ∨
      ∃ ps u, (Format.parameters call).run project s = (.ok ps, u) ∧ ¬ Orderly ps := by
  rw [parsedAtAll, parsedAt_eq made] at h
  rcases run_bind_eq_error.mp h with hparsed | ⟨parsed, _, hparsed, h⟩
  · rcases run_bind_eq_error.mp hparsed with hps | ⟨ps, u, hps, hmake⟩
    · exact .inl ⟨t, hps⟩
    · refine .inr ⟨ps, u, hps, fun orderly => ?_⟩
      obtain ⟨signature, legal⟩ := (exists_ofParameters_iff ps).mpr orderly
      rw [legal] at hmake
      cases hmake
  · obtain ⟨ps, u, hps, hparsed⟩ := run_bind_eq_ok.mp hparsed
    obtain ⟨orderly, rfl⟩ := make_eq_ok_iff.mp (run_demand_eq_ok.mp hparsed).1
    obtain ⟨joined, legal⟩ : ∃ joined, result.change
        { parameters := some (adjustSelf ps), unknown := some false } = .ok joined :=
      ⟨_, make_eq_ok_iff.mpr ⟨(orderly_adjustSelf ps).mpr orderly, rfl⟩⟩
    rcases run_bind_eq_error.mp h with hjoin | ⟨_, _, -, h⟩
    · cases legal.symm.trans (error_of_demand hjoin)
    · cases h

end

theorem style_of_make {path : Path} {body : String} {firstNumber : Int}
    (made : ParseCall.make path body start positionalStyle firstNumber = .ok call) :
    call.style = positionalStyle ∧ call.firstNumber = firstNumber := by
  simp only [ParseCall.make] at made
  split at made
  · split at made
    · next byKeyword => cases byKeyword
    · split at made <;> cases made
      exact ⟨rfl, rfl⟩
  · cases made

section
variable (unnamed : ∀ number, call.keywordAt number = none) (counted : 0 ≤ call.firstNumber)
  (different : call.receivers.Nodup) (fit : call.NamesFit)

include unnamed counted fit

theorem refusesNames_of_parameters {fault : Fault}
    (h : (Format.parameters call).run project s = (.error fault, t)) :
    fault.refusesNames = false := by
  by_contra refuses
  rw [Bool.not_eq_false] at refuses
  obtain ⟨read, done, p, begins, reached, m, hm, refused⟩ := exists_refused_of_parameters h refuses
  obtain ⟨x, made⟩ := (reached.exists_make unnamed fit counted begins hm).2
  rw [made] at refused
  cases refused

include different

theorem names_of_parameters {ps : List Parameter}
    (h : (Format.parameters call).run project s = (.ok ps, t)) :
    Orderly ps ∧ ∀ name ∈ ps.map Parameter.name, IsParameterName name := by
  obtain ⟨read, done, p, begins, reached, makes⟩ := reached_of_parameters h
  have names := reached.map_name unnamed makes
  have explicit (i : Nat) : call.isImplicit i = false := by
    rw [ParseCall.isImplicit, unnamed i]
    rfl
  constructor
  · rw [reached.orderly_iff makes, names]
    refine ⟨reached.nodup_names unnamed fit counted different begins, fun i j _ _ implicit => ?_⟩
    rw [explicit j] at implicit
    cases implicit
  · intro name hname
    rw [names] at hname
    obtain ⟨m, hm, rfl⟩ := mem_map.mp hname
    exact (reached.exists_make unnamed fit counted begins hm).1

end

theorem namesFit_of_parameters (unnamed : ∀ number, call.keywordAt number = none)
    (flat : call.IsFlat) {ps : List Parameter}
    (h : (Format.parameters call).run project s = (.ok ps, t))
    (all : ps.length = call.unitOffers.length) (distinct : (ps.map Parameter.name).Nodup)
    (valid : ∀ name ∈ ps.map Parameter.name, IsParameterName name) : call.NamesFit := by
  obtain ⟨read, done, p, begins, reached, makes⟩ := reached_of_parameters h
  have names : ps.map Parameter.name = (offers call read).map call.offered :=
    (reached.map_name unnamed makes).trans
      (reached.names_eq unnamed fun opened => flat (begins.subset opened)).2
  have whole : offers call read = call.unitOffers := by
    refine (isPrefix_offers begins).eq_of_length ?_
    have lengths := congrArg List.length names
    rw [length_map, length_map] at lengths
    exact lengths.symm.trans all
  rw [names, whole] at distinct valid
  exact .of_offered distinct fun offer hoffer => valid _ (mem_map_of_mem hoffer)

theorem namesValid_iff {signature : Signature} {ps : List Parameter}
    (names : signature.parameters.map Parameter.name = ps.map Parameter.name) :
    signature.NamesValid ↔ (ps.map Parameter.name).Nodup ∧
      ∀ name ∈ ps.map Parameter.name, IsParameterName name := by
  rw [← names, forall_mem_map]
  exact ⟨fun h => ⟨h.distinct, h.valid⟩, fun h => ⟨h.1, h.2⟩⟩

/-- A call that takes its arguments by position and receives them in different variables. If the
names of the variables fit, the call is never refused for names, and its signature has distinct and
valid ones. Without groups the names of a signature with all parameters are valid only then. -/
theorem positional_namesValid {f : FunctionCode} {start : Nat} {call : ParseCall}
    (made : ParseCall.make f.path f.body start positionalStyle f.firstNumber = .ok call)
    (counted : 0 ≤ f.firstNumber) (different : call.receivers.Nodup) (result : Signature)
    (project : Project) (s : Session) :
    (call.NamesFit →
      (∀ fault t, (parsedAtAll f result [(positionalStyle, start)]).run project s =
        (.error fault, t) → fault.refusesNames = false) ∧
      ∀ signatures t, (parsedAtAll f result [(positionalStyle, start)]).run project s =
        (.ok signatures, t) → ∃ signature, signatures = [signature] ∧ signature.NamesValid) ∧
    ∀ signature t, (parsedAtAll f result [(positionalStyle, start)]).run project s =
      (.ok [signature], t) → call.IsFlat →
        signature.parameters.length = call.unitOffers.length → signature.NamesValid →
          call.NamesFit := by
  obtain ⟨style, number⟩ := style_of_make made
  rw [← number] at counted
  have unnamed (i : Nat) : call.keywordAt i = none := by
    rw [ParseCall.keywordAt, style]
    rfl
  refine ⟨fun fit => ⟨fun fault t h => ?_, fun signatures t h => ?_⟩,
    fun signature t h flat all valid => ?_⟩
  · rcases refused_of_run made h with ⟨u, h⟩ | ⟨ps, u, h, disorder⟩
    · exact refusesNames_of_parameters unnamed counted fit h
    · exact absurd (names_of_parameters unnamed counted different fit h).1 disorder
  · obtain ⟨ps, u, signature, h, single, names⟩ := parsed_of_run made h
    obtain ⟨orderly, valid⟩ := names_of_parameters unnamed counted different fit h
    exact ⟨signature, single, (namesValid_iff names).mpr ⟨orderly.names, valid⟩⟩
  · obtain ⟨ps, u, other, h, single, names⟩ := parsed_of_run made h
    rw [← (List.cons.inj single).1] at names
    obtain ⟨distinct, valid⟩ := (namesValid_iff names).mp valid
    have length : ps.length = signature.parameters.length := by
      rw [← length_map Parameter.name, ← names, length_map]
    exact namesFit_of_parameters unnamed flat h (length.trans all) distinct valid

def offersAt (f : FunctionCode) (start : Nat) : Option (List (Nat × Option String)) :=
  (ParseCall.make f.path f.body start positionalStyle f.firstNumber).toOption.map
    ParseCall.unitOffers

theorem exists_of_offersAt {offers : List (Nat × Option String)}
    (h : offersAt f start = some offers) :
    ∃ call, ParseCall.make f.path f.body start positionalStyle f.firstNumber = .ok call ∧
      call.unitOffers = offers := by
  rw [offersAt] at h
  obtain ⟨call, found, rfl⟩ := Option.map_eq_some_iff.mp h
  refine ⟨call, ?_, rfl⟩
  cases made : ParseCall.make f.path f.body start positionalStyle f.firstNumber with
  | error fault =>
    rw [made] at found
    cases found
  | ok other =>
    rw [made] at found
    cases found
    rfl

def namesOf : Except Fault (List Signature) → List (List String) × Bool
  | .ok signatures => (signatures.map fun a => a.parameters.map Parameter.name, false)
  | .error fault => ([], fault.refusesNames)

def namesAt (f : FunctionCode) (start : Nat) : List (List String) × Bool :=
  namesOf ((parsedAtAll f {} [(positionalStyle, start)]).run bareProject {}).1

theorem exists_of_namesAt {names : List String} (h : namesAt f start = ([names], false)) :
    ∃ signature t, (parsedAtAll f {} [(positionalStyle, start)]).run bareProject {} =
      (.ok [signature], t) ∧ signature.parameters.map Parameter.name = names := by
  rw [namesAt] at h
  generalize (parsedAtAll f {} [(positionalStyle, start)]).run bareProject {} = run at h ⊢
  obtain ⟨outcome, t⟩ := run
  cases outcome with
  | error fault => cases (Prod.mk.inj h).1
  | ok signatures =>
    obtain ⟨signature, rfl, same⟩ := map_eq_singleton_iff.mp (Prod.mk.inj h).1
    exact ⟨signature, t, rfl, same⟩

theorem exists_refused_of_namesAt (h : namesAt f start = ([], true)) :
    ∃ fault t, (parsedAtAll f {} [(positionalStyle, start)]).run bareProject {} =
      (.error fault, t) ∧ fault.refusesNames = true := by
  rw [namesAt] at h
  generalize (parsedAtAll f {} [(positionalStyle, start)]).run bareProject {} = run at h ⊢
  obtain ⟨outcome, t⟩ := run
  cases outcome with
  | error fault => exact ⟨fault, t, rfl, (Prod.mk.inj h).2⟩
  | ok signatures => cases (Prod.mk.inj h).2

def sampleCode (body : String) : FunctionCode where
  body := body
  function := "f"
  owner := ""
  path := ⟨["App", "Code.cpp"]⟩
  firstNumber := 1

def moveCode : FunctionCode :=
  sampleCode "int a = 1;PyArg_ParseTuple(args, \"O(i(ii))|d:move\", &shape, &p->x, &y, &z, &a);"

theorem positional_namesValid_move : ∃ call,
    ParseCall.make moveCode.path moveCode.body 10 positionalStyle moveCode.firstNumber = .ok call ∧
      call.receivers = ["shape", "y", "z", "a"] ∧ call.NamesFit ∧
      ∃ signature t, (parsedAtAll moveCode {} [(positionalStyle, 10)]).run bareProject {} =
        (.ok [signature], t) ∧
        signature.parameters.map Parameter.name = ["shape", "arg2_y_z", "a"] ∧
        signature.NamesValid := by
  obtain ⟨call, made, offered⟩ := exists_of_offersAt (show offersAt moveCode 10 =
    some [(0, some "shape"), (1, none), (1, some "y"), (1, some "z"), (2, some "a")] by
      decide +kernel)
  have number : call.firstNumber = 1 := (style_of_make made).2
  have received : call.receivers = ["shape", "y", "z", "a"] := by
    rw [ParseCall.receivers, offered]
    rfl
  have fit : call.NamesFit := by
    refine ⟨?_, fun i name j hi hj _ => ?_⟩
    · rw [received]
      decide
    · have second : call.madeUpName 1 = "arg2" := by
        rw [ParseCall.madeUpName, number]
        rfl
      rw [offered] at hi hj
      obtain rfl : j = 1 := by simpa using hj
      rw [second]
      rintro rfl
      simp at hi
  have different : call.receivers.Nodup := by
    rw [received]
    decide
  obtain ⟨signature, t, run, names⟩ := exists_of_namesAt
    (show namesAt moveCode 10 = ([["shape", "arg2_y_z", "a"]], false) by decide +kernel)
  obtain ⟨_, single, valid⟩ :=
    ((positional_namesValid made (by decide) different {} bareProject {}).1 fit).2 _ t run
  cases single
  exact ⟨call, made, received, fit, signature, t, run, names, valid⟩

def clashCode : FunctionCode := sampleCode "PyArg_ParseTuple(args, \"ii\", &p->x, &arg1);"

def keywordCode : FunctionCode := sampleCode "PyArg_ParseTuple(args, \"i\", &from);"

/-- Different variables are not enough: one can have a made-up name or be a keyword. -/
theorem different_variables_not_enough :
    (∃ call fault t, ParseCall.make clashCode.path clashCode.body 0 positionalStyle
        clashCode.firstNumber = .ok call ∧ call.receivers.Nodup ∧
      (parsedAtAll clashCode {} [(positionalStyle, 0)]).run bareProject {} = (.error fault, t) ∧
      fault.refusesNames = true) ∧
    ∃ call signature t, ParseCall.make keywordCode.path keywordCode.body 0 positionalStyle
        keywordCode.firstNumber = .ok call ∧ call.receivers.Nodup ∧
      (parsedAtAll keywordCode {} [(positionalStyle, 0)]).run bareProject {} =
        (.ok [signature], t) ∧
      signature.parameters.map Parameter.name = ["from"] ∧ Text.isKeyword "from" = true := by
  constructor
  · obtain ⟨call, made, offered⟩ := exists_of_offersAt
      (show offersAt clashCode 0 = some [(0, none), (1, some "arg1")] by decide +kernel)
    obtain ⟨fault, t, run, refuses⟩ := exists_refused_of_namesAt
      (show namesAt clashCode 0 = ([], true) by decide +kernel)
    refine ⟨call, fault, t, made, ?_, run, refuses⟩
    rw [ParseCall.receivers, offered]
    decide
  · obtain ⟨call, made, offered⟩ := exists_of_offersAt
      (show offersAt keywordCode 0 = some [(0, some "from")] by decide +kernel)
    obtain ⟨signature, t, run, names⟩ := exists_of_namesAt
      (show namesAt keywordCode 0 = ([["from"]], false) by decide +kernel)
    refine ⟨call, signature, t, made, ?_, run, names, by decide⟩
    rw [ParseCall.receivers, offered]
    decide

end BindingStubs.Signature
