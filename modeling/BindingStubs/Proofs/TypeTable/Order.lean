import BindingStubs.Proofs.Text.Order
import BindingStubs.Proofs.TypeTable.Reading
import Mathlib.Data.Prod.Lex

set_option autoImplicit false

/-! # The order of type tables -/

namespace BindingStubs.TypeTable

open List

def key (e : TypeEntry) : String ×ₗ String ×ₗ String := toLex (e.className, toLex (e.name, e.id))

theorem key_injective : Function.Injective key := by
  rintro ⟨c, n, id⟩ ⟨c', n', id'⟩ h
  simpa [key] using h

theorem precedes_iff (a b : TypeEntry) : precedes a b = true ↔ key a ≤ key b := by
  rw [precedes, key, key, Prod.Lex.toLex_le_toLex', Prod.Lex.toLex_le_toLex']
  by_cases hclass : a.className = b.className
  · by_cases hname : a.name = b.name <;> simp [hclass, hname, Text.precedes_iff]
  · simp [hclass, Text.precedes_iff]

section
variable {ids : List String}

theorem pairwise_entries : (ofIds ids).entries.Pairwise fun a b => key a < key b :=
  Text.pairwise_lt_mergeSort key_injective precedes_iff _

theorem mem_entries {e : TypeEntry} :
    e ∈ (ofIds ids).entries ↔ e.id ∈ ids ∧ slot? e.id = some e := by
  simp only [ofIds, mem_mergeSort, mem_eraseDups, mem_filterMap]
  constructor
  · rintro ⟨id, hid, he⟩
    obtain rfl := id_of_slot? he
    exact ⟨hid, he⟩
  · rintro ⟨hid, he⟩
    exact ⟨e.id, hid, he⟩

theorem ofIds_congr {ids' : List String} (h : ∀ id, id ∈ ids ↔ id ∈ ids') :
    ofIds ids = ofIds ids' := by
  have hkeys : (ofIds ids).entries.map key = (ofIds ids').entries.map key := by
    refine List.Pairwise.eq_of_mem_iff (pairwise_map.2 pairwise_entries)
      (pairwise_map.2 pairwise_entries) fun k => ?_
    simp only [mem_map, mem_entries, h]
  exact congrArg mk (map_injective_iff.2 key_injective hkeys)

theorem pairwise_classes : (ofIds ids).classes.Pairwise (· < ·) := by
  refine Text.pairwise_lt_eraseDups (pairwise_map.2 (pairwise_entries.imp fun h => ?_))
  exact (Prod.Lex.toLex_le_toLex'.1 h.le).1

/-- Members are ascending by name, and those of one name by id. -/
def Ascends (members : List (String × String)) : Prop :=
  members.Pairwise fun m m' => m.1 < m'.1 ∨ m.1 = m'.1 ∧ m.2 < m'.2

theorem mem_members {c n id : String} :
    (n, id) ∈ ((ofIds ids).body c).members ↔ id ∈ ids ∧ slot? id = some ⟨c, n, id⟩ := by
  rw [body, mem_map]
  constructor
  · rintro ⟨e, he, hpair⟩
    obtain ⟨hentry, rfl⟩ := mem_entriesOf.1 he
    cases hpair
    exact mem_entries.1 hentry
  · intro hid
    exact ⟨⟨c, n, id⟩, mem_entriesOf.2 ⟨mem_entries.2 hid, rfl⟩, rfl⟩

theorem ascends_members (c : String) : Ascends ((ofIds ids).body c).members := by
  refine pairwise_map.2 ((pairwise_entries.sublist filter_sublist).imp_of_mem ?_)
  intro a b ha hb h
  have hclass : a.className = b.className :=
    (mem_entriesOf.1 ha).2.trans (mem_entriesOf.1 hb).2.symm
  rcases Prod.Lex.toLex_lt_toLex.1 h with h | ⟨-, h⟩
  · exact absurd hclass h.ne
  · exact Prod.Lex.toLex_lt_toLex.1 h

end

theorem ofTree_eq {tree : SourceTree} {ids : List String}
    (h : collectIds tree (tree.cppFiles SourceTree.root) = .ok ids) :
    ofTree tree = .ok (ofIds ids) ∧ ∀ e ∈ (ofIds ids).entries, IsPlain e := by
  constructor
  · rw [ofTree, h]
    rfl
  · intro e he
    obtain ⟨hid, he⟩ := mem_entries.1 he
    exact isPlain_of_slot? he (isIdText_of_mem_collectIds h hid)

theorem collectIds_oneFile {name content : String} {ids : List String}
    (hname : Text.endsWith name ".cpp" = true)
    (h : (collectIds (.oneFile name content) [⟨["src", name]⟩]).toOption = some ids) :
    collectIds (.oneFile name content) ((SourceTree.oneFile name content).cppFiles SourceTree.root) =
      .ok ids := by
  rw [SourceTree.cppFiles_oneFile content hname]
  exact Fault.eq_ok_of_toOption h

theorem collectIds_of_perm {tree : SourceTree} {files files' : List Path} {ids : List String}
    (hfiles : files.Perm files') (h : collectIds tree files = .ok ids) :
    ∃ ids', collectIds tree files' = .ok ids' ∧ ids.Perm ids' := by
  induction hfiles generalizing ids with
  | nil => exact ⟨ids, h, .refl _⟩
  | cons p _ ih =>
    obtain ⟨content, hread, h⟩ := Fault.bind_eq_ok.1 h
    obtain ⟨found, hfound, h⟩ := Fault.bind_eq_ok.1 h
    cases h
    obtain ⟨found', hfound', hperm⟩ := ih hfound
    refine ⟨idsIn content ++ found', ?_, hperm.append_left _⟩
    rw [collectIds, hread, hfound']
    rfl
  | swap p q files =>
    obtain ⟨content, hread, h⟩ := Fault.bind_eq_ok.1 h
    obtain ⟨_, hfound, h⟩ := Fault.bind_eq_ok.1 h
    cases h
    obtain ⟨content', hread', hfound⟩ := Fault.bind_eq_ok.1 hfound
    obtain ⟨found, hrest, hfound⟩ := Fault.bind_eq_ok.1 hfound
    cases hfound
    refine ⟨idsIn content' ++ (idsIn content ++ found), ?_, ?_⟩
    · rw [collectIds, hread', collectIds, hread, hrest]
      rfl
    · rw [← append_assoc, ← append_assoc]
      exact perm_append_comm.append_right _
  | trans _ _ ih ih' =>
    obtain ⟨ids', h', hperm⟩ := ih h
    obtain ⟨ids'', h'', hperm'⟩ := ih' h'
    exact ⟨ids'', h'', hperm.trans hperm'⟩

section
variable (tree : SourceTree) (listing : Listing (List String))

theorem locate_listing (place parts : List String) :
    SourceTree.locate { tree with listing } place parts = tree.locate place parts := by
  induction parts generalizing place with
  | nil => rfl
  | cons part parts ih =>
    rw [SourceTree.locate, SourceTree.locate, ih, ih]
    rfl

theorem collectIds_listing (files : List Path) :
    collectIds { tree with listing } files = collectIds tree files := by
  induction files with
  | nil => rfl
  | cons p files ih =>
    rw [collectIds, collectIds, ih, SourceTree.read, SourceTree.octets, locate_listing]
    rfl

theorem cppFiles_listing (directory : Path) :
    (tree.cppFiles directory).Perm (SourceTree.cppFiles { tree with listing } directory) := by
  have hbelow : SourceTree.below { tree with listing } directory = tree.below directory := by
    rw [SourceTree.below, locate_listing]
    rfl
  rw [SourceTree.cppFiles, SourceTree.cppFiles, SourceTree.withEnding, SourceTree.withEnding, hbelow]
  exact ((tree.listing.perm _).trans (listing.perm _).symm).map _

end

/-- Trees that register the same type ids have the same table, in any order of discovery: every
class stands in it once, classes and members are ascending, and each type id is at its place. So it
has if the files of a tree are listed in another order. -/
theorem text_eq_of_same_ids {tree tree' : SourceTree} {ids ids' : List String}
    (h : collectIds tree (tree.cppFiles SourceTree.root) = .ok ids)
    (h' : collectIds tree' (tree'.cppFiles SourceTree.root) = .ok ids')
    (hsame : ∀ id, id ∈ ids ↔ id ∈ ids') :
    ∃ t t' bodies, ofTree tree = .ok t ∧ ofTree tree' = .ok t' ∧ t.text = t'.text ∧
      readBodies? t.text = some bodies ∧ (bodies.map ClassBody.name).Pairwise (· < ·) ∧
      (∀ body ∈ bodies, Ascends body.members) ∧
      (∀ c n id, (∃ body ∈ bodies, body.name = c ∧ (n, id) ∈ body.members) ↔
        id ∈ ids ∧ slot? id = some ⟨c, n, id⟩) ∧
      ∀ listing, ∃ t', ofTree { tree with listing } = .ok t' ∧ t'.text = t.text := by
  obtain ⟨htable, hplain⟩ := ofTree_eq h
  refine ⟨_, _, _, htable, (ofTree_eq h').1, by rw [ofIds_congr hsame], readBodies?_text hplain,
    ?_, ?_, ?_, ?_⟩
  · rw [map_map]
    exact map_id _ ▸ pairwise_classes
  · intro body hbody
    obtain ⟨c, -, rfl⟩ := mem_map.1 hbody
    exact ascends_members c
  · intro c n id
    rw [← mem_members]
    constructor
    · rintro ⟨body, hbody, rfl, hmem⟩
      obtain ⟨c, -, rfl⟩ := mem_map.1 hbody
      exact hmem
    · intro hmem
      have he : ⟨c, n, id⟩ ∈ (ofIds ids).entries := mem_entries.2 (mem_members.1 hmem)
      exact ⟨_, mem_map_of_mem (mem_classes.2 ⟨_, he, rfl⟩), rfl, hmem⟩
  · intro listing
    obtain ⟨ids', hids', hperm⟩ :=
      collectIds_of_perm (cppFiles_listing tree listing SourceTree.root) h
    rw [← collectIds_listing tree listing] at hids'
    exact ⟨_, (ofTree_eq hids').1, by rw [ofIds_congr fun _ => hperm.mem_iff]⟩

/-- The order in which ids are found and their repetition make no difference. -/
theorem text_eq_of_exchanged : ∃ t t', ofTree (.oneFile "A.cpp" "A::B::init();A::C::init();") = .ok t ∧
    ofTree (.oneFile "Z.cpp" "A::C::init();A::B::init();A::C::init();") = .ok t' ∧
      t.text = t'.text := by
  let tree := SourceTree.oneFile "A.cpp" "A::B::init();A::C::init();"
  let tree' := SourceTree.oneFile "Z.cpp" "A::C::init();A::B::init();A::C::init();"
  have h : collectIds tree (tree.cppFiles SourceTree.root) = .ok ["A::B", "A::C"] :=
    collectIds_oneFile (by decide) (by decide +kernel)
  have h' : collectIds tree' (tree'.cppFiles SourceTree.root) = .ok ["A::C", "A::B", "A::C"] :=
    collectIds_oneFile (by decide) (by decide +kernel)
  obtain ⟨t, t', -, ht, ht', htext, -⟩ := text_eq_of_same_ids h h' (by simp [or_comm])
  exact ⟨t, t', ht, ht', htext⟩

end BindingStubs.TypeTable
