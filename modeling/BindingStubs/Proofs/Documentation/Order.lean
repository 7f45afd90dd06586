import BindingStubs.Documentation.Signatures
import BindingStubs.Proofs.Signature.Validity

set_option autoImplicit false

/-! # The order of documented parameters -/

namespace BindingStubs

open List

theorem Literal.acceptBackwards_ne_any (room : Nat) (cs : List Char) :
    (acceptBackwards room cs).spelling ≠ some TypeHint.anyText := by
  have hname : (builtin? TypeHint.anyText).isSome = false := by decide
  have hread : (read TypeHint.anyText).isOk = false := by decide +kernel
  induction cs generalizing room with
  | nil =>
    rw [acceptBackwards]
    split <;> decide
  | cons c rest ih =>
    unfold acceptBackwards
    dsimp only
    generalize String.ofList (c :: rest).reverse = s
    split
    next hs =>
      rintro ⟨⟩
      exact absurd hs (by rw [hname]; decide)
    split
    next spelling htruth =>
      rw [truthSpelling?] at htruth
      split_ifs at htruth <;> cases htruth <;> decide
    split
    next hs =>
      rintro ⟨⟩
      rw [hs] at hread
      cases hread
    split
    · rintro ⟨⟩
    split
    · rintro ⟨⟩
    · exact ih _

namespace Documentation

open Text

def Written.name : Written → String
  | .named name _ _ => name
  | _ => ""

def isOptional (raw : String) : Bool := isBracketed raw || contains (bare raw) "="

def kindAfter (kind : ParameterKind) (raw : String) : ParameterKind :=
  if isOptional raw then .flexible else kind

section
variable {kind : ParameterKind} {raw text : String} {rest : List String}

theorem isSome_writtenDefault {spelling : Option String} (h : spelling ≠ some TypeHint.anyText) :
    (writtenDefault spelling).isSome = true := by
  have hne : spelling.getD "None" ≠ TypeHint.anyText := by
    cases spelling with
    | none => decide
    | some s => exact fun hs => h (congrArg some hs)
  simp [writtenDefault, TypeHint.ofList?, hne]

theorem readWritten_cases (h : text ≠ "...") :
    (∃ fault, readWritten text = .malformed fault) ∨
      ∃ name default broken, readWritten text = .named name default broken ∧
        default.isSome = contains text "=" := by
  rw [readWritten]
  split
  next hequals =>
    split
    next name value _ =>
      dsimp only
      split
      · exact .inl ⟨_, rfl⟩
      · refine .inr ⟨_, _, _, rfl, ?_⟩
        exact (isSome_writtenDefault (Literal.acceptBackwards_ne_any _ _)).trans hequals.symm
    · exact .inl ⟨_, rfl⟩
  next hequals =>
    rw [if_neg (by simpa using h)]
    exact .inr ⟨_, _, _, rfl, (Bool.eq_false_iff.2 hequals).symm⟩

theorem arguments_cons (supply : NameSupply) (rest : List String)
    (hkind : kind = .positional ∨ kind = .flexible) (hraw : bare raw ≠ "...") :
    (∃ fault, arguments kind supply (raw :: rest) = [{ parameter := .error fault }]) ∨
      ∃ default hint broken, default.isSome = (kindAfter kind raw == .flexible) ∧
        arguments kind supply (raw :: rest) =
          { parameter := Parameter.make (supply.choose (readWritten (bare raw)).name).1
              (kindAfter kind raw) default hint, broken } ::
            arguments (kindAfter kind raw) (supply.choose (readWritten (bare raw)).name).2 rest := by
  rw [arguments]
  rcases readWritten_cases hraw with ⟨fault, hread⟩ | ⟨name, default, broken, hread, hdefault⟩
  · rw [hread]
    exact .inl ⟨fault, rfl⟩
  · rw [hread, argumentThen, kindAfter, isOptional, ← hdefault]
    right
    cases isBracketed raw <;> cases default <;> rcases hkind with rfl | rfl <;>
      exact ⟨_, _, _, rfl, rfl⟩

theorem exists_head_nameFor (number : Int) (written : String) :
    ∃ c, (nameFor number written).toList.head? = some c ∧ c ≠ '.' := by
  rw [nameFor]
  generalize String.ofList (wordChars false written.toList) = word
  split
  · refine ⟨'a', ?_, by decide⟩
    rw [String.toList_append]
    rfl
  next hletter =>
    rw [Bool.not_eq_true', Bool.not_eq_false, Option.any_eq_true] at hletter
    obtain ⟨c, hhead, hc⟩ := hletter
    refine ⟨c, ?_, ?_⟩
    · split
      · rw [String.toList_append, List.head?_append, hhead, Option.some_or]
      · exact hhead
    · rintro rfl
      exact absurd hc (by decide)

theorem implicitNumber?_choose (supply : NameSupply) (written : String) :
    Parameter.implicitNumber? (supply.choose written).1 = none := by
  obtain ⟨c, hhead, hc⟩ := exists_head_nameFor supply.number written
  have hchosen : (supply.choose written).1.toList.head? = some c := by
    rw [NameSupply.choose]
    dsimp only
    split
    · rw [String.toList_append, List.head?_append, hhead, Option.some_or]
    · exact hhead
  rw [Parameter.implicitNumber?]
  split
  next heq =>
    rw [heq] at hchosen
    exact absurd (Option.some.inj hchosen).symm hc
  next => rfl

def yielded (call : List Argument) : List Parameter × Option Fault :=
  Fault.untilFault (call.map Argument.parameter)

theorem yielded_arguments_cons (supply : NameSupply) (rest : List String)
    (hkind : kind = .positional ∨ kind = .flexible) (hraw : bare raw ≠ "...") :
    (∃ fault, yielded (arguments kind supply (raw :: rest)) = ([], some fault)) ∨
      ∃ p : Parameter, p.name = (supply.choose (readWritten (bare raw)).name).1 ∧
        p.outline = (kindAfter kind raw, kindAfter kind raw == .flexible) ∧
        yielded (arguments kind supply (raw :: rest)) =
          Prod.map (p :: ·) id (yielded (arguments (kindAfter kind raw)
            (supply.choose (readWritten (bare raw)).name).2 rest)) := by
  rcases arguments_cons supply rest hkind hraw with
    ⟨fault, hfault⟩ | ⟨default, hint, broken, hdefault, hcons⟩
  · exact .inl ⟨fault, by rw [hfault]; rfl⟩
  rw [hcons]
  cases hmake : Parameter.make (supply.choose (readWritten (bare raw)).name).1 (kindAfter kind raw)
      default hint with
  | error fault => exact .inl ⟨fault, rfl⟩
  | ok p =>
    obtain ⟨hname, hpdefault, -, hpkind⟩ := Parameter.make_parts hmake
    rw [Parameter.givenName, implicitNumber?_choose] at hname
    rw [implicitNumber?_choose, if_neg (by decide)] at hpkind
    exact .inr ⟨p, hname, by rw [Parameter.outline, hpkind, hpdefault, hdefault], rfl⟩

theorem flexible_arguments (supply : NameSupply) (h : ∀ raw ∈ rest, bare raw ≠ "...") :
    ∃ b, (yielded (arguments .flexible supply rest)).1.map Parameter.outline =
        List.replicate b (.flexible, true) ∧
      ((yielded (arguments .flexible supply rest)).2 = none → b = rest.length) := by
  induction rest generalizing supply with
  | nil => exact ⟨0, rfl, fun _ => rfl⟩
  | cons raw rest ih =>
    rw [forall_mem_cons] at h
    have hafter : kindAfter .flexible raw = .flexible := ite_self _
    rcases yielded_arguments_cons supply rest (.inr rfl) h.1 with
      ⟨fault, hfault⟩ | ⟨p, -, houtline, hcons⟩
    · rw [hfault]
      exact ⟨0, rfl, fun hnone => absurd hnone (Option.some_ne_none fault)⟩
    · rw [hcons, hafter]
      obtain ⟨b, hb, hall⟩ := ih (supply.choose (readWritten (bare raw)).name).2 h.2
      refine ⟨b + 1, ?_, fun hnone => congrArg (· + 1) (hall hnone)⟩
      rw [Prod.map_fst, map_cons, hb, houtline, hafter]
      rfl

end

def required (raws : List String) : List String := raws.takeWhile fun raw => !isOptional raw

theorem positional_arguments {raws : List String} (supply : NameSupply)
    (h : ∀ raw ∈ raws, bare raw ≠ "...") :
    ∃ a b, (yielded (arguments .positional supply raws)).1.map Parameter.outline =
        List.replicate a (.positional, false) ++ List.replicate b (.flexible, true) ∧
      a ≤ (required raws).length ∧ (0 < b → a = (required raws).length) ∧
      ((yielded (arguments .positional supply raws)).2 = none → a + b = raws.length) := by
  induction raws generalizing supply with
  | nil => exact ⟨0, 0, rfl, Nat.le_refl 0, fun _ => rfl, fun _ => rfl⟩
  | cons raw rest ih =>
    rw [forall_mem_cons] at h
    rcases yielded_arguments_cons supply rest (.inl rfl) h.1 with
      ⟨fault, hfault⟩ | ⟨p, -, houtline, hcons⟩
    · rw [hfault]
      exact ⟨0, 0, rfl, Nat.zero_le _, fun hpos => absurd hpos (Nat.lt_irrefl 0),
        fun hnone => absurd hnone (Option.some_ne_none fault)⟩
    rw [hcons, required, takeWhile_cons]
    -- from the first optional argument on all are flexible
    cases hoptional : isOptional raw with
    | true =>
      have hafter : kindAfter .positional raw = .flexible := if_pos hoptional
      rw [hafter] at houtline ⊢
      obtain ⟨b, hb, hall⟩ := flexible_arguments
        (supply.choose (readWritten (bare raw)).name).2 h.2
      refine ⟨0, b + 1, ?_, Nat.zero_le _, fun _ => rfl, fun hnone => ?_⟩
      · rw [Prod.map_fst, map_cons, hb, houtline]
        rfl
      · rw [hall hnone, Nat.zero_add, length_cons]
    | false =>
      have hafter : kindAfter .positional raw = .positional :=
        if_neg (by rw [hoptional]; exact Bool.false_ne_true)
      rw [hafter] at houtline ⊢
      obtain ⟨a, b, hab, hle, hfirst, hall⟩ := ih
        (supply.choose (readWritten (bare raw)).name).2 h.2
      refine ⟨a + 1, b, ?_, Nat.succ_le_succ hle, fun hpos => congrArg (· + 1) (hfirst hpos),
        fun hnone => ?_⟩
      · rw [Prod.map_fst, map_cons, hab, houtline]
        rfl
      · rw [length_cons, ← hall hnone]
        omega

def argumentTexts (inside : String) : List String :=
  if inside.isEmpty then [] else Source.commaPieces inside

theorem callArguments_eq (inside : String) (firstNumber : Int) :
    callArguments inside firstNumber =
      arguments .positional { number := firstNumber } (argumentTexts inside) := by
  rw [callArguments, argumentTexts]
  split <;> rfl

def anyMoreTexts : List String := ["...", "[...", "...]", "[...]"]

theorem eq_or_eq_of_dropStart {cs ds : List Char} {c : Char} (h : Chars.dropStart cs [c] = ds) :
    cs = ds ∨ cs = c :: ds := by
  rw [Chars.dropStart] at h
  split at h
  next hstarts =>
    obtain ⟨rest, rfl⟩ := isPrefixOf_iff_prefix.1 hstarts
    exact .inr (congrArg (c :: ·) h)
  next => exact .inl h

theorem eq_or_eq_of_dropEnd {cs ds : List Char} {c : Char} (h : Chars.dropEnd cs [c] = ds) :
    cs = ds ∨ cs = ds ++ [c] := by
  rw [Chars.dropEnd] at h
  split at h
  next hends =>
    obtain ⟨front, rfl⟩ := isSuffixOf_iff_suffix.1 hends
    refine .inr ?_
    rw [← h]
    simp
  next => exact .inl h

theorem bare_eq_iff (raw : String) : bare raw = "..." ↔ trim raw ∈ anyMoreTexts := by
  rw [bare, settled]
  generalize trim raw = text
  constructor
  · intro h
    have hsettled : ∀ s : String, dropEnd (dropStart s "[") "]" = "..." → s ∈ anyMoreTexts := by
      intro s hs
      have hlist := congrArg String.toList hs
      rw [dropEnd, dropStart, String.toList_ofList, String.toList_ofList] at hlist
      simp only [anyMoreTexts, mem_cons, not_mem_nil, or_false, ← String.toList_inj]
      rcases eq_or_eq_of_dropEnd hlist with hend | hend <;>
        rcases eq_or_eq_of_dropStart hend with hstart | hstart <;> rw [hstart] <;> decide
    have hmem := hsettled _ h
    split at hmem
    · have hfree : anyMoreTexts.all (fun s => !s.toList.contains 'e') = true := by decide
      simpa using all_eq_true.1 hfree _ hmem
    · exact hmem
  · intro h
    simp only [anyMoreTexts, mem_cons, not_mem_nil, or_false] at h
    rcases h with rfl | rfl | rfl | rfl <;> decide

/-- Without the mark for any further arguments, the parameters of a call are a run of positional
ones without a default and a run of flexible ones with one. The second starts with the first
optional argument, and if there is no fault, each argument has its parameter. -/
theorem yielded_inOrder (inside : String) (firstNumber : Int)
    (h : ∀ raw ∈ argumentTexts inside, trim raw ∉ anyMoreTexts) :
    ∃ a b, (yielded (callArguments inside firstNumber)).1.map Parameter.outline =
        List.replicate a (.positional, false) ++ List.replicate b (.flexible, true) ∧
      a ≤ (required (argumentTexts inside)).length ∧
      (0 < b → a = (required (argumentTexts inside)).length) ∧
      ((yielded (callArguments inside firstNumber)).2 = none →
        a + b = (argumentTexts inside).length) := by
  rw [callArguments_eq]
  exact positional_arguments _ fun raw hraw hbare => h raw hraw ((bare_eq_iff raw).1 hbare)

theorem yielded_inOrder_lists :
    (∀ raw ∈ argumentTexts "a, b[], [c], d=[], e=(1, f", trim raw ∉ anyMoreTexts) ∧
      ∃ a b, (yielded (callArguments "a, b[], [c], d=[], e=(1, f" 0)).1.map Parameter.outline =
          List.replicate a (.positional, false) ++ List.replicate b (.flexible, true) ∧
        a ≤ 2 ∧ (0 < b → a = 2) ∧
        ((yielded (callArguments "a, b[], [c], d=[], e=(1, f" 0)).2 = none → a + b = 5) := by
  have h : ∀ raw ∈ argumentTexts "a, b[], [c], d=[], e=(1, f", trim raw ∉ anyMoreTexts := by
    decide +kernel
  exact ⟨h, yielded_inOrder _ 0 h⟩

/-- The mark with one bracket only is the mark too. -/
theorem yielded_half_bracketed :
    (∀ raw ∈ argumentTexts "a, ...]", trim raw ≠ "..." ∧ trim raw ≠ "[...]" ∧
        raw.toList.count '=' ≤ 1) ∧
      ¬ ∃ a b, (yielded (callArguments "a, ...]" 0)).1.map Parameter.outline =
        List.replicate a (.positional, false) ++ List.replicate b (.flexible, true) := by
  refine ⟨by decide +kernel, ?_⟩
  rintro ⟨a, b, h⟩
  have hyielded : (yielded (callArguments "a, ...]" 0)).1.map Parameter.outline =
      [(.positional, false), (.varPositional, false)] := by decide +kernel
  have hmem : (ParameterKind.varPositional, false) ∈
      List.replicate a (ParameterKind.positional, false) ++ List.replicate b (.flexible, true) := by
    rw [← h, hyielded]
    decide
  simp at hmem

end Documentation

end BindingStubs
