import BindingStubs.Proofs.TypeTable.Order

set_option autoImplicit false

/-! # Types that share a place -/

namespace BindingStubs.TypeTable

open List

def isProper (name : String) : Bool := Text.isIdentifier name && !Text.isKeyword name

def ClassBody.isProper (body : ClassBody) : Bool :=
  TypeTable.isProper body.name && body.members.all fun m => TypeTable.isProper m.1

/-- The value of an attribute when a text of class bodies is run. A later class or assignment takes
the place of an earlier one of its name; nothing is run if a name is none. -/
def attribute? (text className name : String) : Option String := do
  let bodies ← readBodies? text
  if bodies.all ClassBody.isProper then
    let body ← (bodies.filter fun body => body.name == className).getLast?
    let member ← (body.members.filter fun m => m.1 == name).getLast?
    return member.2
  else none

def place? (id : String) : Option (String × String) :=
  slot? id |>.map fun e => (e.className, e.name)

abbrev AllProper (ids : List String) : Prop :=
  ∀ id ∈ ids, ∀ place ∈ place? id, isProper place.1 = true ∧ isProper place.2 = true

theorem place?_eq_some {id c n : String} : place? id = some (c, n) ↔ slot? id = some ⟨c, n, id⟩ := by
  rw [place?, Option.map_eq_some_iff]
  constructor
  · rintro ⟨e, he, hplace⟩
    obtain rfl := id_of_slot? he
    cases hplace
    exact he
  · intro he
    exact ⟨_, he, rfl⟩

section
variable {ids : List String}

theorem mem_members_iff {c n id : String} :
    (n, id) ∈ ((ofIds ids).body c).members ↔ id ∈ ids ∧ place? id = some (c, n) := by
  rw [mem_members, place?_eq_some]

theorem all_isProper_iff :
    ((ofIds ids).classes.map (ofIds ids).body).all ClassBody.isProper = true ↔ AllProper ids := by
  simp only [all_eq_true, forall_mem_map, ClassBody.isProper, Bool.and_eq_true]
  constructor
  · rintro h id hid ⟨c, n⟩ hplace
    have hmem := mem_members_iff.2 ⟨hid, hplace⟩
    have he : ⟨c, n, id⟩ ∈ (ofIds ids).entries := mem_entries.2 ⟨hid, place?_eq_some.1 hplace⟩
    have hc := h c (mem_classes.2 ⟨_, he, rfl⟩)
    exact ⟨hc.1, hc.2 _ hmem⟩
  · intro h c hc
    obtain ⟨e, he, rfl⟩ := mem_classes.1 hc
    obtain ⟨hid, he⟩ := mem_entries.1 he
    refine ⟨(h e.id hid _ (place?_eq_some.2 he)).1, ?_⟩
    rintro ⟨n, id⟩ hmem
    obtain ⟨hid, hplace⟩ := mem_members_iff.1 hmem
    exact (h id hid _ hplace).2

theorem getLast?_bodies {c : String} {body : ClassBody} :
    (((ofIds ids).classes.map (ofIds ids).body).filter fun body => body.name == c).getLast? =
      some body ↔ c ∈ (ofIds ids).classes ∧ body = (ofIds ids).body c := by
  have hnames : ((ofIds ids).classes.map (ofIds ids).body).Pairwise fun a b => a.name < b.name :=
    pairwise_map.2 pairwise_classes
  rw [Text.getLast?_eq_some_iff_of_pairwise (hnames.sublist filter_sublist)]
  simp only [mem_filter, mem_map, beq_iff_eq]
  constructor
  · rintro ⟨⟨⟨c, hc, rfl⟩, rfl⟩, -⟩
    exact ⟨hc, rfl⟩
  · rintro ⟨hc, rfl⟩
    exact ⟨⟨⟨c, hc, rfl⟩, rfl⟩, fun b hb => hb.2.le⟩

theorem getLast?_members {c n : String} {m : String × String} :
    (((ofIds ids).body c).members.filter fun m => m.1 == n).getLast? = some m ↔
      m.1 = n ∧ m.2 ∈ ids ∧ place? m.2 = some (c, n) ∧
        ∀ id ∈ ids, place? id = some (c, n) → id ≤ m.2 := by
  have hids : (((ofIds ids).body c).members.filter fun m => m.1 == n).Pairwise
      fun a b => a.2 < b.2 := by
    refine ((ascends_members c).sublist filter_sublist).imp_of_mem ?_
    intro a b ha hb h
    have hnames : a.1 = b.1 := by simp_all
    exact (h.resolve_left fun hlt => hlt.ne hnames).2
  rw [Text.getLast?_eq_some_iff_of_pairwise hids]
  obtain ⟨name, id⟩ := m
  simp only [mem_filter, beq_iff_eq, Prod.forall, and_imp]
  constructor
  · rintro ⟨⟨hmem, rfl⟩, hle⟩
    obtain ⟨hid, hplace⟩ := mem_members_iff.1 hmem
    exact ⟨rfl, hid, hplace, fun id' hid' hplace' =>
      hle name id' (mem_members_iff.2 ⟨hid', hplace'⟩) rfl⟩
  · rintro ⟨rfl, hid, hplace, hle⟩
    refine ⟨⟨mem_members_iff.2 ⟨hid, hplace⟩, rfl⟩, ?_⟩
    rintro _ id' hmem rfl
    obtain ⟨hid', hplace'⟩ := mem_members_iff.1 hmem
    exact hle id' hid' hplace'

theorem attribute?_eq_some_iff (hplain : ∀ e ∈ (ofIds ids).entries, IsPlain e) {c n id : String} :
    attribute? (ofIds ids).text c n = some id ↔ AllProper ids ∧ id ∈ ids ∧
      place? id = some (c, n) ∧ ∀ id' ∈ ids, place? id' = some (c, n) → id' ≤ id := by
  rw [attribute?, readBodies?_text hplain]
  dsimp only [Option.bind_eq_bind, Option.bind_some]
  split_ifs with hproper
  · rw [Option.bind_eq_some_iff]
    constructor
    · rintro ⟨body, hbody, hmember⟩
      obtain ⟨-, rfl⟩ := getLast?_bodies.1 hbody
      obtain ⟨m, hm, hid⟩ := Option.bind_eq_some_iff.1 hmember
      cases hid
      exact ⟨all_isProper_iff.1 hproper, (getLast?_members.1 hm).2⟩
    · rintro ⟨-, hid, hplace, hle⟩
      have he : ⟨c, n, id⟩ ∈ (ofIds ids).entries := mem_entries.2 ⟨hid, place?_eq_some.1 hplace⟩
      refine ⟨_, getLast?_bodies.2 ⟨mem_classes.2 ⟨_, he, rfl⟩, rfl⟩, Option.bind_eq_some_iff.2 ?_⟩
      exact ⟨(n, id), getLast?_members.2 ⟨rfl, hid, hplace, hle⟩, rfl⟩
  · rw [all_isProper_iff] at hproper
    simp [hproper]

end

/-- A type that is registered under an id with a first part is an attribute of the table if and only
if all classes and attributes have names and no greater id has its place. So every type is an
attribute just if no two of them share a place. -/
theorem exists_attribute_iff {tree : SourceTree} {ids : List String} {id : String}
    (h : collectIds tree (tree.cppFiles SourceTree.root) = .ok ids) (hid : id ∈ ids)
    (hfront : Text.before (Text.replace id "::" "_") "_" ≠ "") :
    ∃ t, ofTree tree = .ok t ∧
      ((∃ c n, attribute? t.text c n = some id) ↔
        AllProper ids ∧ ∀ id' ∈ ids, place? id' = place? id → id' ≤ id) ∧
      ((∀ id ∈ ids, place? id ≠ none → ∃ c n, attribute? t.text c n = some id) ↔
        AllProper ids ∧ ∀ id ∈ ids, ∀ id' ∈ ids, place? id ≠ none → place? id' = place? id →
          id' = id) := by
  obtain ⟨htable, hplain⟩ := ofTree_eq h
  have hkept : ∀ {id}, id ∈ ids → place? id ≠ none →
      ((∃ c n, attribute? (ofIds ids).text c n = some id) ↔
        AllProper ids ∧ ∀ id' ∈ ids, place? id' = place? id → id' ≤ id) := by
    intro id hid hplaced
    obtain ⟨⟨c, n⟩, hplace⟩ := Option.ne_none_iff_exists'.1 hplaced
    simp only [attribute?_eq_some_iff hplain, hplace]
    constructor
    · rintro ⟨_, _, hproper, -, ⟨⟩, hle⟩
      exact ⟨hproper, hle⟩
    · rintro ⟨hproper, hle⟩
      exact ⟨c, n, hproper, hid, rfl, hle⟩
  obtain ⟨e, he⟩ := exists_slot hfront
  have hplaced : place? id ≠ none := by simp [place?, he]
  refine ⟨_, htable, hkept hid hplaced, fun hall => ⟨?_, ?_⟩, fun ⟨hproper, hone⟩ id hid hplaced => ?_⟩
  · exact ((hkept hid hplaced).1 (hall id hid hplaced)).1
  · intro id hid id' hid' hplaced hsame
    have hle := ((hkept hid hplaced).1 (hall id hid hplaced)).2 id' hid' hsame
    have hplaced' : place? id' ≠ none := by rwa [hsame]
    exact le_antisymm hle
      (((hkept hid' hplaced').1 (hall id' hid' hplaced')).2 id hid hsame.symm)
  · exact (hkept hid hplaced).2 ⟨hproper, fun id' hid' hsame => (hone id hid id' hid' hplaced hsame).le⟩

def sharedTree : SourceTree := .oneFile "A.cpp" "A::B_C::init();A_B::C::init();"

theorem collectIds_sharedTree :
    collectIds sharedTree (sharedTree.cppFiles SourceTree.root) = .ok ["A::B_C", "A_B::C"] :=
  collectIds_oneFile (by decide) (by decide +kernel)

theorem exists_attribute_of_greater :
    ∃ t, ofTree sharedTree = .ok t ∧ ∃ c n, attribute? t.text c n = some "A_B::C" := by
  have hmem : "A_B::C" ∈ ["A::B_C", "A_B::C"] := by decide
  obtain ⟨t, ht, hkept, -⟩ := exists_attribute_iff collectIds_sharedTree hmem (by decide +kernel)
  exact ⟨t, ht, hkept.2 ⟨by decide +kernel, by decide +kernel⟩⟩

/-- The other one is lost, although its class and name are fine by themselves. -/
theorem not_attribute_of_shared_place :
    AllProper ["A::B_C"] ∧ Text.before (Text.replace "A::B_C" "::" "_") "_" ≠ "" ∧
      ∃ ids t, collectIds sharedTree (sharedTree.cppFiles SourceTree.root) = .ok ids ∧
        "A::B_C" ∈ ids ∧ ofTree sharedTree = .ok t ∧
          ∀ c n, attribute? t.text c n ≠ some "A::B_C" := by
  obtain ⟨htable, hplain⟩ := ofTree_eq collectIds_sharedTree
  have hfront : Text.before (Text.replace "A::B_C" "::" "_") "_" ≠ "" := by decide +kernel
  refine ⟨by decide +kernel, hfront, _, _, collectIds_sharedTree, mem_cons_self, htable, ?_⟩
  intro c n hsome
  obtain ⟨-, -, hplace, hle⟩ := (attribute?_eq_some_iff hplain).1 hsome
  have hsame : place? "A_B::C" = place? "A::B_C" := by decide +kernel
  exact absurd (hle "A_B::C" (by decide) (hsame.trans hplace)) (by decide +kernel)

end BindingStubs.TypeTable
