import BindingStubs.Proofs.OrderedSet
import BindingStubs.Proofs.Session
import BindingStubs.Proofs.Steps

set_option autoImplicit false

/-! # Every registered name is remembered -/

namespace BindingStubs.Registry

open List

def namesOf (cppClass : String) (entries : List Registration) : List String :=
  (entries.filter (·.cppClass == cppClass)).map (·.name)

theorem namesOf_concat (cppClass : String) (entries : List Registration) (entry : Registration) :
    namesOf cppClass (entries ++ [entry]) =
      namesOf cppClass entries ++ if entry.cppClass = cppClass then [entry.name] else [] := by
  by_cases h : entry.cppClass = cppClass <;> simp [namesOf, h]

variable {entries : List Registration}

theorem namesOf_eq_singleton_iff {cppClass name : String} :
    namesOf cppClass entries = [name] ↔
      entries.filter (·.cppClass == cppClass) = [⟨cppClass, name⟩] := by
  constructor
  · intro h
    obtain ⟨entry, hentry, rfl⟩ := map_eq_singleton_iff.1 h
    have hmem : entry ∈ entries.filter (·.cppClass == cppClass) := by simp [hentry]
    obtain rfl : entry.cppClass = cppClass := by simpa using (mem_filter.1 hmem).2
    exact hentry
  · intro h
    rw [namesOf, h, map_singleton]

theorem mem_namesOf {cppClass name : String} :
    name ∈ namesOf cppClass entries ↔ ⟨cppClass, name⟩ ∈ entries := by
  simp only [namesOf, mem_map, mem_filter, beq_iff_eq]
  constructor
  · rintro ⟨entry, ⟨hentry, rfl⟩, rfl⟩
    exact hentry
  · intro h
    exact ⟨_, ⟨h, rfl⟩, rfl⟩

theorem mem_put {table : List (String × String)} {key value cppClass name : String} :
    (cppClass, name) ∈ put table key value ↔
      if key = cppClass then value = name else (cppClass, name) ∈ table := by
  rw [put]
  split
  next hkey =>
    obtain ⟨old, hold, hkey⟩ := any_eq_true.1 hkey
    rw [beq_iff_eq] at hkey
    rw [mem_map]
    constructor
    · rintro ⟨entry, hentry, hset⟩
      by_cases h : entry.1 = key
      · rw [if_pos (beq_iff_eq.2 h), Prod.mk.injEq] at hset
        rw [if_pos hset.1]
        exact hset.2
      · rw [if_neg (by simpa using h)] at hset
        obtain rfl := hset
        rw [if_neg (Ne.symm h)]
        exact hentry
    · intro h
      split at h
      next hsame => exact ⟨old, hold, by rw [if_pos (beq_iff_eq.2 hkey), hsame, h]⟩
      next hother => exact ⟨_, h, if_neg (by simpa using Ne.symm hother)⟩
  next hkey =>
    have hnew : (key, name) ∉ table := by
      intro h
      exact hkey (any_eq_true.2 ⟨_, h, beq_self_eq_true key⟩)
    by_cases h : key = cppClass
    · subst h
      simp [hnew, eq_comm]
    · simp [h, Ne.symm h]

theorem lookup_eq_some_iff_mem {table : List (String × String)} {key : String}
    (h : ∀ a b, (key, a) ∈ table → (key, b) ∈ table → a = b) {value : String} :
    table.lookup key = some value ↔ (key, value) ∈ table := by
  constructor
  · intro hlookup
    obtain ⟨before, after, rfl, -⟩ := lookup_eq_some_iff.1 hlookup
    simp
  · intro hmem
    cases hlookup : table.lookup key with
    | none => simpa using lookup_eq_none_iff.1 hlookup _ hmem
    | some other =>
      obtain ⟨before, after, rfl, -⟩ := lookup_eq_some_iff.1 hlookup
      rw [h other value (by simp) hmem]

structure Tables.Of (t : Tables) (entries : List Registration) : Prop where
  first : ∀ c n, (c, n) ∈ t.first ↔ (namesOf c entries).head? = some n
  latest : ∀ c n, (c, n) ∈ t.latest ↔ (namesOf c entries).getLast? = some n
  duplicates : ∀ c n, (c, n) ∈ t.duplicates.toList ↔
    n ∈ namesOf c entries ∧ 2 ≤ (namesOf c entries).length

theorem Tables.Of.nil : Tables.Of {} [] := by
  constructor <;> simp [namesOf, OrderedSet.empty]

theorem Tables.Of.add {t : Tables} (h : t.Of entries) (entry : Registration) :
    (t.add entry).Of (entries ++ [entry]) := by
  have hlatest : ∀ c n, (c, n) ∈ put t.latest entry.cppClass entry.name ↔
      (namesOf c (entries ++ [entry])).getLast? = some n := by
    intro c n
    rw [mem_put, namesOf_concat]
    split
    · simp
    · simpa using h.latest c n
  have hlookup : t.first.lookup entry.cppClass = (namesOf entry.cppClass entries).head? := by
    refine Option.ext fun n => (lookup_eq_some_iff_mem fun a b ha hb => ?_).trans (h.first _ n)
    exact Option.some.inj (((h.first _ a).1 ha).symm.trans ((h.first _ b).1 hb))
  rw [Tables.add, hlookup]
  cases hnames : namesOf entry.cppClass entries with
  | nil =>
    refine ⟨fun c n => ?_, hlatest, fun c n => ?_⟩
    · dsimp only [head?_nil]
      rw [mem_append, h.first, namesOf_concat]
      by_cases hc : entry.cppClass = c
      · subst hc
        simp [hnames, eq_comm]
      · simp [hc, Ne.symm hc]
    · dsimp only [head?_nil]
      rw [h.duplicates, namesOf_concat]
      by_cases hc : entry.cppClass = c
      · subst hc
        simp [hnames]
      · simp [hc]
  | cons name names =>
    refine ⟨fun c n => ?_, hlatest, fun c n => ?_⟩
    · dsimp only [head?_cons]
      rw [h.first, namesOf_concat]
      by_cases hc : entry.cppClass = c
      · subst hc
        simp [hnames]
      · simp [hc]
    · dsimp only [head?_cons]
      rw [OrderedSet.mem_insertAll, h.duplicates, namesOf_concat]
      by_cases hc : entry.cppClass = c
      · subst hc
        -- A class that comes the second time adds both of its names, later on only the new one.
        cases names with
        | nil => simp [hnames]
        | cons name' names => simp [hnames]; grind
      · simp [hc, Ne.symm hc]

theorem Tables.Of.foldl {t : Tables} {seen : List Registration} (h : t.Of seen)
    (entries : List Registration) : (entries.foldl Tables.add t).Of (seen ++ entries) := by
  induction entries generalizing t seen with
  | nil => simpa using h
  | cons entry entries ih => simpa using ih (h.add entry)

theorem Tables.Of.any_duplicates {t : Tables} (h : t.Of entries) {c : String} :
    (t.duplicates.toList.any fun entry => entry.1 == c) = true ↔
      2 ≤ (namesOf c entries).length := by
  rw [any_eq_true]
  constructor
  · rintro ⟨⟨c', n⟩, hmem, hc⟩
    obtain rfl : c' = c := by simpa using hc
    exact ((h.duplicates c' n).1 hmem).2
  · intro htwo
    obtain ⟨n, hn⟩ := exists_mem_of_length_pos (Nat.lt_of_lt_of_le Nat.zero_lt_two htwo)
    exact ⟨(c, n), (h.duplicates c n).2 ⟨hn, htwo⟩, beq_self_eq_true c⟩

theorem of_tables (entries : List Registration) : (entries.foldl Tables.add {}).Of entries := by
  simpa using Tables.Of.nil.foldl entries

theorem mem_unique_iff {c n : String} :
    (c, n) ∈ (ofRegistrations entries).unique ↔ namesOf c entries = [n] := by
  have h := of_tables entries
  rw [ofRegistrations, mem_filter, h.latest, Bool.not_eq_true', ← Bool.not_eq_true,
    h.any_duplicates]
  rcases namesOf c entries with _ | ⟨first, _ | ⟨second, others⟩⟩ <;> simp

theorem mem_duplicates_iff {c n : String} :
    (c, n) ∈ (ofRegistrations entries).duplicates.toList ↔
      n ∈ namesOf c entries ∧ 2 ≤ (namesOf c entries).length :=
  (of_tables entries).duplicates c n

theorem isImportable_iff {n : String} :
    (ofRegistrations entries).isImportable n = true ↔ ∃ c, n ∈ namesOf c entries := by
  simp only [isImportable, Bool.or_eq_true, any_eq_true, beq_iff_eq]
  constructor
  · rintro (⟨⟨c, _⟩, hmem, rfl⟩ | ⟨⟨c, _⟩, hmem, rfl⟩)
    · exact ⟨c, by simp [mem_unique_iff.1 hmem]⟩
    · exact ⟨c, (mem_duplicates_iff.1 hmem).1⟩
  · rintro ⟨c, hn⟩
    by_cases htwo : 2 ≤ (namesOf c entries).length
    · exact .inr ⟨(c, n), mem_duplicates_iff.2 ⟨hn, htwo⟩, rfl⟩
    · refine .inl ⟨(c, n), mem_unique_iff.2 ?_, rfl⟩
      have hone : (namesOf c entries).length = 1 := by
        have hlength := length_pos_of_mem hn
        omega
      obtain ⟨m, hm⟩ := length_eq_one_iff.1 hone
      rw [hm, mem_singleton] at hn
      rw [hm, hn]

theorem registry_of_load {tree : SourceTree} {project : Project}
    (hentries : Project.collectRegistrations tree (tree.cppFiles SourceTree.root) = .ok entries)
    (hload : Project.load tree = .ok project) : project.registry = ofRegistrations entries := by
  obtain ⟨found, hfound, hload⟩ := Fault.bind_eq_ok.1 hload
  obtain ⟨exceptions, -, hproject⟩ := Fault.bind_eq_ok.1 hload
  cases hentries.symm.trans hfound
  cases hproject
  rfl

/-- A registry remembers registrations if it knows each name, and the class of a name where the
class has no other registration. -/
structure Remembers (r : Registry) (entries : List Registration) : Prop where
  importable : ∀ n, r.isImportable n = true ↔ ∃ entry ∈ entries, entry.name = n
  entry : ∀ c n, (c, n) ∈ r.unique ↔ entries.filter (·.cppClass == c) = [⟨c, n⟩]
  found : ∀ c n, r.name? c = some n ↔ entries.filter (·.cppClass == c) = [⟨c, n⟩]

/-- Every importable class is remembered, whatever the registrations and their repetitions, and so
it is in the project that is loaded from a tree with these registrations. -/
theorem ofRegistrations_remembers (entries : List Registration) :
    (ofRegistrations entries).Remembers entries ∧
      ∀ tree project, Project.collectRegistrations tree (tree.cppFiles SourceTree.root) =
        .ok entries → Project.load tree = .ok project → project.registry.Remembers entries := by
  have hentry : ∀ c n, (c, n) ∈ (ofRegistrations entries).unique ↔
      entries.filter (·.cppClass == c) = [⟨c, n⟩] :=
    fun c n => mem_unique_iff.trans namesOf_eq_singleton_iff
  have h : (ofRegistrations entries).Remembers entries := by
    refine ⟨fun n => ?_, hentry, fun c n => ?_⟩
    · rw [isImportable_iff]
      constructor
      · rintro ⟨c, hn⟩
        exact ⟨_, mem_namesOf.1 hn, rfl⟩
      · rintro ⟨entry, hmem, rfl⟩
        exact ⟨entry.cppClass, mem_namesOf.2 hmem⟩
    · rw [name?, lookup_eq_some_iff_mem, hentry]
      intro a b ha hb
      simpa using (mem_unique_iff.1 ha).symm.trans (mem_unique_iff.1 hb)
  refine ⟨h, fun tree project hentries hload => ?_⟩
  rw [registry_of_load hentries hload]
  exact h

def vectorTree : SourceTree := .oneFile "AppBase.cpp"
  "Base::Interpreter().addType(&Base::VectorPy::Type, mod, \"Vector\");
   Base::Interpreter().addType(Base::VectorPy::type_object(), mod, \"Point\");
   Base::Interpreter().addType(&Base::MatrixPy::Type, mod, \"Matrix\");"

/-- A class of two names has no entry, and both names can be imported. -/
theorem remembers_second_name :
    ∃ project, Project.load vectorTree = .ok project ∧
      project.registry.Remembers [⟨"VectorPy", "FreeCAD.Vector"⟩, ⟨"VectorPy", "FreeCAD.Point"⟩,
        ⟨"MatrixPy", "FreeCAD.Matrix"⟩] := by
  have hfiles : vectorTree.cppFiles SourceTree.root = _ := SourceTree.cppFiles_oneFile _ (by decide)
  have hentries : Project.collectRegistrations vectorTree (vectorTree.cppFiles SourceTree.root) =
      .ok [⟨"VectorPy", "FreeCAD.Vector"⟩, ⟨"VectorPy", "FreeCAD.Point"⟩,
        ⟨"MatrixPy", "FreeCAD.Matrix"⟩] := by
    rw [hfiles]
    exact Fault.eq_ok_of_toOption (by decide +kernel)
  have hexceptions :
      Project.collectExceptions vectorTree (vectorTree.cppFiles SourceTree.root) = .ok [] := by
    rw [hfiles]
    exact Fault.eq_ok_of_toOption (by decide +kernel)
  have hload : ∃ project, Project.load vectorTree = .ok project := by
    rw [Project.load, hentries, hexceptions]
    exact ⟨_, rfl⟩
  obtain ⟨project, hload⟩ := hload
  exact ⟨project, hload, (ofRegistrations_remembers _).2 _ _ hentries hload⟩

end BindingStubs.Registry
