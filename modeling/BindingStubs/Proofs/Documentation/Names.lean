import BindingStubs.Proofs.Documentation.Order

set_option autoImplicit false

/-! # The names of documented parameters -/

namespace BindingStubs.Documentation

open Text List

namespace NameSupply

def chooseAll : NameSupply → List String → List String
  | _, [] => []
  | supply, w :: written => (supply.choose w).1 :: (supply.choose w).2.chooseAll written

def after (supply : NameSupply) (written : List String) : NameSupply :=
  written.foldl (fun supply w => (supply.choose w).2) supply

/-- The name of the next argument is taken, with its number too. -/
def Clashes (supply : NameSupply) (w : String) : Prop :=
  nameFor supply.number w ∈ supply.taken ∧
    nameFor supply.number w ++ toString supply.number ∈ supply.taken

variable {supply : NameSupply} {w : String} {written : List String}

theorem choose_mem_taken_iff : (supply.choose w).1 ∈ supply.taken ↔ supply.Clashes w := by
  rw [choose, Clashes]
  dsimp only
  split
  next h => simpa using fun _ => by simpa using h
  next h => simpa using fun hmem => absurd hmem (by simpa using h)

theorem taken_choose : (supply.choose w).2.taken = (supply.choose w).1 :: supply.taken := rfl

theorem nodup_chooseAll_iff (supply : NameSupply) :
    ((supply.chooseAll written).Nodup ∧ ∀ name ∈ supply.chooseAll written, name ∉ supply.taken) ↔
      ∀ front w back, written = front ++ w :: back → ¬ (supply.after front).Clashes w := by
  induction written generalizing supply with
  | nil => simp [chooseAll]
  | cons w written ih =>
    rw [chooseAll, nodup_cons, forall_mem_cons, choose_mem_taken_iff]
    have hrest := ih (supply.choose w).2
    rw [taken_choose] at hrest
    constructor
    · rintro ⟨⟨hnew, hnodup⟩, hclash, hfree⟩ front v back hsplit
      have hlater := hrest.1 ⟨hnodup, fun name hname hmem => by
        rcases mem_cons.1 hmem with rfl | hmem
        · exact hnew hname
        · exact hfree name hname hmem⟩
      cases front with
      | nil =>
        obtain ⟨rfl, rfl⟩ := List.cons.inj hsplit
        exact hclash
      | cons x front =>
        obtain ⟨rfl, hback⟩ := List.cons.inj hsplit
        exact hlater front v back hback
    · intro h
      obtain ⟨hnodup, hfree⟩ := hrest.2 fun front v back hsplit =>
        h (w :: front) v back (congrArg (w :: ·) hsplit)
      refine ⟨⟨fun hmem => hfree _ hmem mem_cons_self, hnodup⟩, h [] w written rfl, ?_⟩
      exact fun name hname hmem => hfree name hname (mem_cons_of_mem _ hmem)

end NameSupply

def given (start : Int) (written : List String) : List String :=
  NameSupply.chooseAll { number := start } written

def spellings : Int → List String → List (String × String)
  | _, [] => []
  | number, w :: written =>
    (nameFor number w, nameFor number w ++ toString number) :: spellings (number + 1) written

/-- Names with their numbers are distinct, and none of them is a name without its number. -/
def Unambiguous (start : Int) (written : List String) : Prop :=
  ((spellings start written).map Prod.snd).Nodup ∧
    ∀ name ∈ (spellings start written).map Prod.fst, name ∉ (spellings start written).map Prod.snd

theorem not_clashes_of_unambiguous (supply : NameSupply) {written front back : List String}
    {w : String} (h : Unambiguous supply.number written)
    (htaken : ∀ name ∈ supply.taken, name ∉ (spellings supply.number written).map Prod.snd)
    (hsplit : written = front ++ w :: back) : ¬ (supply.after front).Clashes w := by
  induction front generalizing supply written with
  | nil =>
    subst hsplit
    exact fun hclash => htaken _ hclash.2 mem_cons_self
  | cons x front ih =>
    subst hsplit
    obtain ⟨hnodup, hplain⟩ := h
    rw [cons_append, spellings, map_cons, nodup_cons] at hnodup
    rw [cons_append, spellings, map_cons, map_cons, forall_mem_cons] at hplain
    rw [cons_append, spellings, map_cons] at htaken
    refine ih (supply.choose x).2 ⟨hnodup.2, fun name hname hmem =>
      hplain.2 name hname (mem_cons_of_mem _ hmem)⟩ ?_ rfl
    rw [NameSupply.taken_choose, forall_mem_cons]
    refine ⟨?_, fun name hname hmem => htaken name hname (mem_cons_of_mem _ hmem)⟩
    rw [NameSupply.choose]
    dsimp only
    split
    · exact hnodup.1
    · exact fun hmem => hplain.1 (mem_cons_of_mem _ hmem)

def askedName (raw : String) : String := (readWritten (bare raw)).name

theorem names_yielded {raws : List String} {kind : ParameterKind} {supply : NameSupply}
    {ps : List Parameter} (hkind : kind = .positional ∨ kind = .flexible)
    (h : ∀ raw ∈ raws, bare raw ≠ "...")
    (hps : yielded (arguments kind supply raws) = (ps, none)) :
    ps.map Parameter.name = supply.chooseAll (raws.map askedName) := by
  induction raws generalizing kind supply ps with
  | nil =>
    cases hps
    rfl
  | cons raw rest ih =>
    rw [forall_mem_cons] at h
    rcases yielded_arguments_cons supply rest hkind h.1 with
      ⟨fault, hfault⟩ | ⟨p, hname, -, hcons⟩
    · rw [hfault] at hps
      cases hps
    · have hafter : kindAfter kind raw = .positional ∨ kindAfter kind raw = .flexible := by
        rw [kindAfter]
        split
        · exact .inr rfl
        · exact hkind
      rcases hrest : yielded (arguments (kindAfter kind raw)
        (supply.choose (readWritten (bare raw)).name).2 rest) with ⟨qs, fault⟩
      rw [hcons, hrest] at hps
      obtain ⟨rfl, rfl⟩ : p :: qs = ps ∧ fault = none := Prod.mk.inj hps
      rw [map_cons, hname, ih hafter h.2 hrest]
      rfl

theorem pairwise_outlines (a b : Nat) :
    (List.replicate a (ParameterKind.positional, false) ++
      List.replicate b (ParameterKind.flexible, true)).Pairwise Signature.MayPrecede := by
  refine pairwise_append.2 ⟨pairwise_replicate.2 (.inr (by decide)),
    pairwise_replicate.2 (.inr (by decide)), fun x hx y hy => ?_⟩
  rw [eq_of_mem_replicate hx, eq_of_mem_replicate hy]
  decide

/-- Names are distinct exactly if none clashes when its turn comes, in particular if they are
unambiguous. A documented call makes a signature exactly if its names are distinct. -/
theorem given_nodup_iff (start : Int) :
    (∀ written, (given start written).Nodup ↔ ∀ front w back, written = front ++ w :: back →
      ¬ (NameSupply.after { number := start } front).Clashes w) ∧
    (∀ written, Unambiguous start written → (given start written).Nodup) ∧
    ∀ inside ps, (∀ raw ∈ argumentTexts inside, trim raw ∉ anyMoreTexts) →
      yielded (callArguments inside start) = (ps, none) →
        ((∃ s, Signature.ofParameters ps = .ok s) ↔
          (given start ((argumentTexts inside).map askedName)).Nodup) := by
  have hiff : ∀ written, (given start written).Nodup ↔ ∀ front w back,
      written = front ++ w :: back → ¬ (NameSupply.after { number := start } front).Clashes w := by
    intro written
    rw [← NameSupply.nodup_chooseAll_iff { number := start }, given, iff_self_and]
    exact fun _ _ _ => not_mem_nil
  refine ⟨hiff, fun written h => (hiff written).2 fun front w back => ?_, fun inside ps h hps => ?_⟩
  · exact not_clashes_of_unambiguous _ h fun _ hname => absurd hname not_mem_nil
  · have hbare : ∀ raw ∈ argumentTexts inside, bare raw ≠ "..." :=
      fun raw hraw hbare => h raw hraw ((bare_eq_iff raw).1 hbare)
    rw [callArguments_eq] at hps
    obtain ⟨a, b, houtlines, -⟩ := positional_arguments { number := start } hbare
    rw [hps] at houtlines
    rw [Signature.exists_ofParameters_iff, given, ← names_yielded (.inl rfl) hbare hps]
    refine ⟨fun horderly => horderly.names, fun hnodup => ?_⟩
    exact ⟨houtlines ▸ pairwise_outlines a b, hnodup⟩

/-- A name that comes again gets its number. -/
theorem given_nodup_iff_repeated :
    given 0 ["a", "b", "a"] = ["a", "b", "a2"] ∧
      ∃ s, Signature.ofParameters (yielded (callArguments "a, b, a" 0)).1 = .ok s := by
  have hgiven : given 0 ["a", "b", "a"] = ["a", "b", "a2"] := by decide +kernel
  have hasked : (argumentTexts "a, b, a").map askedName = ["a", "b", "a"] := by decide +kernel
  have hnone : (yielded (callArguments "a, b, a" 0)).2 = none := by decide +kernel
  refine ⟨hgiven, ((given_nodup_iff 0).2.2 _ _ (by decide +kernel) (Prod.ext rfl hnone)).2 ?_⟩
  rw [hasked, hgiven]
  decide

/-- The number makes a name that was written before, and no signature is made. -/
theorem given_not_nodup :
    ¬ (given 0 ["a", "a2", "a"]).Nodup ∧
      (signatureOf (callArguments "a, a2, a" 0)).isOk = false := by
  decide +kernel

end BindingStubs.Documentation
