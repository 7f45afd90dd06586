import BindingStubs.Proofs.Inference.Answers
import BindingStubs.Proofs.Text.Search
import Mathlib.Data.Finset.Prod

set_option autoImplicit false

/-! # Where inference ends -/

namespace BindingStubs.Inference

open Gen

structure Question where
  expression : String
  stop : Nat
  literal : Bool
  deriving DecidableEq

def partsOf (cs : List Char) : Finset String :=
  ((cs.tails.flatMap List.inits).map String.ofList).toFinset

theorem mem_partsOf {cs : List Char} {s : String} : s ∈ partsOf cs ↔ s.toList <:+: cs := by
  simp only [partsOf, List.mem_toFinset, List.mem_map, List.mem_flatMap, List.mem_tails,
    List.mem_inits]
  rw [List.infix_iff_prefix_suffix]
  constructor
  · rintro ⟨part, ⟨rest, hrest, hpart⟩, rfl⟩
    rw [String.toList_ofList]
    exact ⟨rest, hpart, hrest⟩
  · rintro ⟨rest, hpart, hrest⟩
    exact ⟨s.toList, ⟨rest, hrest, hpart⟩, String.ofList_toList⟩

@[irreducible]
def questions (c : Code) : Finset Question :=
  ((partsOf c.body ∪ partsOf "type".toList) ×ˢ Finset.range (c.body.length + 1) ×ˢ
    {false, true}).image fun (expression, stop, literal) => ⟨expression, stop, literal⟩

theorem mem_questions {c : Code} {q : Question} :
    q ∈ questions c ↔ c.Mentions q.expression ∧ q.stop ≤ c.body.length := by
  simp only [questions, Finset.mem_image, Finset.mem_product, Finset.mem_union, mem_partsOf,
    Finset.mem_range, Nat.lt_succ_iff, Prod.exists]
  constructor
  · rintro ⟨expression, stop, literal, ⟨htext, hstop, -⟩, rfl⟩
    exact ⟨htext, hstop⟩
  · rintro ⟨htext, hstop⟩
    exact ⟨q.expression, q.stop, q.literal, ⟨htext, hstop, by cases q.literal <;> decide⟩, rfl⟩

section
variable {project : Project} {c : Code}

/-- The type of an expression if no question may be asked while it is open. The questions that are
not open are given. -/
def typeOnce (c : Code) (unopened : Finset Question) : Ask := fun expression stop literal =>
  if _ : ⟨expression, stop, literal⟩ ∈ unopened then
    step (typeOnce c (unopened.erase ⟨expression, stop, literal⟩)) c expression stop literal
  else throw .tooDeep
termination_by unopened.card
decreasing_by exact Finset.card_erase_lt_of_mem ‹_›

/-- An answer found while remembering is found at a depth of as many questions as there are. -/
theorem asksAlike_typeOnce (project : Project) (c : Code) (unopened : Finset Question) :
    AsksAlike project .tooDeep c (typeOnce c unopened) (typeWithin unopened.card c) := by
  induction hcard : unopened.card generalizing unopened with
  | zero =>
    intro expression stop literal _ _
    rw [typeOnce, dif_neg (by rw [Finset.card_eq_zero.1 hcard]; exact Finset.notMem_empty _)]
    exact .of_fault fun _ => rfl
  | succ n ih =>
    intro expression stop literal hexpression hstop
    rw [typeOnce]
    split_ifs with hmem
    · have hsmaller : (unopened.erase ⟨expression, stop, literal⟩).card = n := by
        rw [Finset.card_erase_of_mem hmem, hcard, Nat.add_sub_cancel]
      exact (ih _ hsmaller).step (by decide) literal hexpression hstop
    · exact .of_fault fun _ => rfl

/-- An answer found at a depth is found while remembering, if the questions that count as open get
no answer at that depth. -/
theorem asksAlike_typeWithin_typeOnce {n : Nat} {unopened : Finset Question}
    (hopen : ∀ q ∈ questions c, q ∉ unopened →
      Ends project (typeWithin n c q.expression q.stop q.literal) (.error .tooDeep)) :
    AsksAlike project .tooDeep c (typeWithin n c) (typeOnce c unopened) := by
  induction n generalizing unopened with
  | zero => exact fun _ _ _ _ _ => .of_fault fun _ => rfl
  | succ n ih =>
    have hopen' : ∀ q ∈ questions c, q ∉ unopened →
        Ends project (typeWithin n c q.expression q.stop q.literal) (.error .tooDeep) := by
      intro q hq hmem
      have hq' := mem_questions.1 hq
      exact (asksAlike_typeWithin project c (Nat.le_succ n) q.literal hq'.1 hq'.2).fault_of_fault
        (hopen q hq hmem)
    intro expression stop literal hexpression hstop
    have hq : (⟨expression, stop, literal⟩ : Question) ∈ questions c :=
      mem_questions.2 ⟨hexpression, hstop⟩
    by_cases hmem : (⟨expression, stop, literal⟩ : Question) ∈ unopened
    · -- An answer that is there at the smaller depth already is settled by induction. Otherwise
      -- the question itself gets no answer there, so it may be counted as open.
      by_cases hdeep : Ends project (typeWithin n c expression stop literal) (.error .tooDeep)
      · rw [typeOnce, dif_pos hmem]
        refine (ih fun q hq' hnot => ?_).step (by decide) literal hexpression hstop
        by_cases heq : q = ⟨expression, stop, literal⟩
        · rw [heq]
          exact hdeep
        · exact hopen' q hq' fun h => hnot (Finset.mem_erase.2 ⟨heq, h⟩)
      · exact (asksAlike_typeWithin project c (Nat.le_succ n) literal hexpression hstop).of_settled
          (ih hopen' literal hexpression hstop) hdeep
    · exact .of_fault (hopen ⟨expression, stop, literal⟩ hq hmem)

end

def returnTypeWithin (depth : Nat) (c : Code) : Gen (Option TypeHint) :=
  returnTypeBy (typeWithin depth c) c

def returnTypeOnce (c : Code) : Gen (Option TypeHint) := returnTypeBy (typeOnce c (questions c)) c

theorem agreesUnless_returnTypeWithin (project : Project) (c : Code) (depth : Nat) :
    AgreesUnless project .tooDeep (returnTypeWithin depth c) (returnTypeOnce c) :=
  (asksAlike_typeWithin_typeOnce fun _ hq hnot => absurd hq hnot).returnTypeBy (by decide)
    (by decide)

theorem agreesUnless_returnTypeOnce (project : Project) (c : Code) {depth : Nat}
    (h : (questions c).card ≤ depth) :
    AgreesUnless project .tooDeep (returnTypeOnce c) (returnTypeWithin depth c) :=
  ((asksAlike_typeOnce project c (questions c)).returnTypeBy (by decide) (by decide)).trans
    ((asksAlike_typeWithin project c h).returnTypeBy (by decide) (by decide))

/-- Inference ends on a body, with some bound on the depth of questions, exactly if it ends without
asking a question that is still open. It then gives the same at every depth at which it ends, and
at every depth that is no less than the number of questions about the body. -/
theorem returnType_ends_iff (project : Project) (c : Code) (s t : Session) :
    ((∃ depth, ((returnTypeWithin depth c).run project s).1 ≠ .error .tooDeep) ↔
        ((returnTypeOnce c).run project t).1 ≠ .error .tooDeep) ∧
      (∀ depth, ((returnTypeWithin depth c).run project s).1 = .error .tooDeep ∨
        ((returnTypeWithin depth c).run project s).1 = ((returnTypeOnce c).run project t).1) ∧
      (∀ depth, (questions c).card ≤ depth →
        ((returnTypeWithin depth c).run project s).1 = ((returnTypeOnce c).run project t).1) ∧
      returnType c = returnTypeWithin deepest c := by
  have hwithin := fun depth => agreesUnless_returnTypeWithin project c depth s t
  have henough : ∀ depth, (questions c).card ≤ depth →
      ((returnTypeWithin depth c).run project s).1 = ((returnTypeOnce c).run project t).1 :=
    fun depth h => (agreesUnless_returnTypeWithin project c depth).antisymm
      (agreesUnless_returnTypeOnce project c h) s t
  refine ⟨⟨?_, fun h => ⟨(questions c).card, ?_⟩⟩, hwithin, henough, rfl⟩
  · rintro ⟨depth, hdepth⟩
    rw [← (hwithin depth).resolve_left hdepth]
    exact hdepth
  · rw [henough _ (Nat.le_refl _)]
    exact h

/-- So many steps one within another, the innermost of which gets its answers from `ask`. -/
def stepsWithin (ask : Ask) (c : Code) : Nat → Ask
  | 0 => ask
  | n + 1 => step (stepsWithin ask c n) c

def refuse (q : Question) (other : Fault) : Ask := fun expression stop literal =>
  throw (if (⟨expression, stop, literal⟩ : Question) = q then .tooDeep else other)

section
variable {project : Project} {c : Code} {fault : Fault}

theorem AsksAlike.stepsWithin {ask ask' : Ask} (h : AsksAlike project fault c ask ask')
    (hfault : fault ≠ .nothingLeft) (n : Nat) :
    AsksAlike project fault c (stepsWithin ask c n) (Inference.stepsWithin ask' c n) := by
  induction n with
  | zero => exact h
  | succ n ih => exact ih.step hfault

theorem stepsWithin_typeWithin (c : Code) (depth n : Nat) :
    stepsWithin (typeWithin depth c) c n = typeWithin (depth + n) c := by
  induction n with
  | zero => rfl
  | succ n ih => rw [stepsWithin, ih]; rfl

theorem asksAlike_refuse (c : Code) {q : Question} {ask : Ask} (other : Fault)
    (hq : Ends project (ask q.expression q.stop q.literal) (.error .tooDeep)) :
    AsksAlike project other c (refuse q other) ask := by
  intro expression stop literal _ _ s t
  by_cases h : (⟨expression, stop, literal⟩ : Question) = q
  · right
    subst h
    rw [hq t, refuse, if_pos rfl]
    rfl
  · left
    rw [refuse, if_neg h]
    rfl

theorem typeWithin_of_loop {q : Question} (hq : q ∈ questions c) {other : Fault}
    (hnothing : other ≠ .nothingLeft) (hother : other ≠ .tooDeep) {rounds : Nat}
    (hrounds : 0 < rounds)
    (hloop : ∃ s, ((stepsWithin (refuse q other) c rounds q.expression q.stop q.literal).run
      project s).1 = .error .tooDeep) (depth : Nat) :
    Ends project (typeWithin depth c q.expression q.stop q.literal) (.error .tooDeep) := by
  obtain ⟨u, hu⟩ := hloop
  obtain ⟨hmentions, hstop⟩ := mem_questions.1 hq
  have hmultiple : ∀ n, Ends project (typeWithin (n * rounds) c q.expression q.stop q.literal)
      (.error .tooDeep) := by
    intro n
    induction n with
    | zero => exact fun _ => by rw [Nat.zero_mul]; rfl
    | succ n ih =>
      intro s
      have hsteps := (asksAlike_refuse c other ih).stepsWithin hnothing rounds q.literal
        hmentions hstop u s
      rw [hu, stepsWithin_typeWithin, ← Nat.succ_mul] at hsteps
      rcases hsteps with h | h
      · cases h
        exact absurd rfl hother
      · exact h.symm
  have hle : depth ≤ depth * rounds := Nat.le_mul_of_pos_right depth hrounds
  exact (asksAlike_typeWithin project c hle q.literal hmentions hstop).fault_of_fault
    (hmultiple depth)

end

def isTooDeep {α : Type} (action : Gen α) : Bool :=
  match (action.run Project.empty {}).1 with
  | .error .tooDeep => true
  | _ => false

theorem isTooDeep_iff {α : Type} {action : Gen α} :
    isTooDeep action = true ↔ (action.run Project.empty {}).1 = .error .tooDeep := by
  rw [isTooDeep]
  constructor
  · intro h
    split at h
    · assumption
    · cases h
  · intro h
    rw [h]

def swappedCode : Code := Code.make "Py::Object a;Py::Object b;a = b;b = a;return a;" "" ""

def swappedQuestion : Question := ⟨"a", 47, false⟩

theorem swappedQuestion_mem : swappedQuestion ∈ questions swappedCode := by
  have hfound : Chars.contains swappedCode.body swappedQuestion.expression.toList = true := by
    decide +kernel
  have hstop : swappedQuestion.stop ≤ swappedCode.body.length := by decide +kernel
  exact mem_questions.2 ⟨.inl (Chars.contains_iff_infix.1 hfound), hstop⟩

/-- Two variables that are assigned from one another are looked up without end. -/
theorem swappedCode_never_ends :
    ¬ ∃ depth s,
      ((returnTypeWithin depth swappedCode).run Project.empty s).1 ≠ .error .tooDeep := by
  rintro ⟨depth, s, h⟩
  -- From `a` over `b` back to `a` takes two steps.
  have hloop : isTooDeep (stepsWithin (refuse swappedQuestion .noOwner) swappedCode 2
      swappedQuestion.expression swappedQuestion.stop swappedQuestion.literal) = true := by
    decide +kernel
  have hreturned : isTooDeep (returnTypeBy (refuse swappedQuestion .noOwner) swappedCode) = true := by
    decide +kernel
  have hopen := typeWithin_of_loop swappedQuestion_mem (by decide) (by decide) (by decide)
    ⟨{}, isTooDeep_iff.1 hloop⟩ depth
  have hagree := (asksAlike_refuse swappedCode .noOwner hopen).returnTypeBy (by decide) (by decide) {} s
  rw [isTooDeep_iff.1 hreturned] at hagree
  rcases hagree with heq | heq
  · cases heq
  · exact h heq.symm

end BindingStubs.Inference
