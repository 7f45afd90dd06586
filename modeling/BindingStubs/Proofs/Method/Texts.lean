import BindingStubs.Method.Registered
import BindingStubs.Proofs.OrderedSet
import BindingStubs.Proofs.Session
import BindingStubs.Proofs.Steps
import Mathlib.Data.List.Nodup

set_option autoImplicit false

/-! # Texts of methods of one name -/

namespace BindingStubs

open List

namespace Template

def isPlain (c : Char) : Bool := c != '\x7b' && c != '\x7d'

theorem pieces_append {cs : List Char} (h : ∀ c ∈ cs, isPlain c = true) (fuel : Nat)
    (rest : List Char) :
    pieces (cs.length + fuel) (cs ++ rest) = cs.map (fun c => .ok (.plain c)) ++ pieces fuel rest := by
  induction cs with
  | nil => simp
  | cons c cs ih =>
    rw [forall_mem_cons, isPlain] at h
    rw [length_cons, Nat.add_right_comm, cons_append, pieces, if_pos h.1, ih h.2]
    rfl

theorem pieces_fields (fuel : Nat) (rest : List Char) :
    pieces (18 + fuel) ("\x7bsignature\x7d:\x7bdocs\x7d".toList ++ rest) =
      .ok (.field { path := "signature".toList }) :: .ok (.plain ':') ::
        .ok (.field { path := "docs".toList }) :: pieces (fuel + 15) rest := by
  rw [Nat.add_comm]
  rfl

theorem fill_fields {start stop : String} (hstart : ∀ c ∈ start.toList, isPlain c = true)
    (hstop : ∀ c ∈ stop.toList, isPlain c = true) (signature docs : String) :
    fill [("signature", signature), ("docs", docs)]
        (start ++ "\x7bsignature\x7d:\x7bdocs\x7d" ++ stop) =
      .ok (start ++ signature ++ ":" ++ docs ++ stop) := by
  have hrest := pieces_append hstop 15 []
  rw [append_nil, show pieces 15 [] = [] from rfl, append_nil] at hrest
  have hcollect := Fault.collect_map_ok (start.toList.map ([·]) ++
    signature.toList :: [':'] :: docs.toList :: stop.toList.map ([·]))
  have hflat : ∀ cs : List Char, (cs.map ([·])).flatten = cs := fun cs => by
    rw [← flatMap_def, flatMap_singleton']
  rw [fill, fillTo, String.toList_append, String.toList_append, append_assoc, length_append,
    length_append, pieces_append hstart,
    show "\x7bsignature\x7d:\x7bdocs\x7d".toList.length = 18 from rfl, pieces_fields, hrest]
  simp only [map_append, map_cons, map_map] at hcollect ⊢
  refine (congrArg (Except.map String.ofList)
    (congrArg (· >>= fun texts => pure texts.flatten) hcollect)).trans ?_
  refine congrArg Except.ok (String.toList_inj.1 ?_)
  simp only [String.toList_ofList, String.toList_append, flatten_append, flatten_cons, hflat,
    append_assoc]
  rfl

end Template

namespace MethodText

open Gen Template

def definitionText (front name : String) (spacing : Nat) (body signature : String) : String :=
  front ++ "def " ++ name ++ signature ++ ":" ++ body ++ String.ofList (replicate spacing '\n')

def nameText (name : String) (signatures : List String) (docs : String) (spacing : Nat) : String :=
  let front := if 1 < signatures.length then "@typing.overload\n" else ""
  String.join (signatures.dropLast.map (definitionText front name spacing " ...\n")) ++
    signatures.getLast?.elim ""
      (definitionText front name spacing (Documentation.bodyOrEllipsis docs))

def forcedReturn (path : Path) (name : String) : Option String :=
  if name == "activeDocument" then
    if path.parts.contains "App" then some "FreeCAD.Document"
    else if path.parts.contains "Gui" then some "FreeCADGui.Document"
    else none
  else if name == "getParentGroup" then some "FreeCAD.DocumentObjectGroup | None"
  else none

variable {name : String} (hname : ∀ c ∈ name.toList, isPlain c = true)
include hname

theorem definitions_eq_ok {front : String} (hfront : ∀ c ∈ front.toList, isPlain c = true)
    (spacing : Nat) (docs : String) (signatures : List String) :
    definitions (template front name spacing) docs signatures =
      .ok (String.join (signatures.dropLast.map (definitionText front name spacing " ...\n")) ++
        signatures.getLast?.elim ""
          (definitionText front name spacing (Documentation.bodyOrEllipsis docs))) := by
  have hfill : ∀ signature body, fill [("signature", signature), ("docs", body)]
      (template front name spacing) = .ok (definitionText front name spacing body signature) := by
    refine fun signature body => fill_fields ?_ (by simp [mem_replicate, isPlain]) signature body
    simp only [String.toList_append, forall_mem_append]
    exact ⟨⟨hfront, all_eq_true.1 (by decide)⟩, hname⟩
  induction signatures with
  | nil => rfl
  | cons signature signatures ih =>
    cases signatures with
    | nil => simp [definitions, hfill]
    | cons second signatures =>
      rw [definitions, hfill, ih]
      · simp [String.append_assoc]
        rfl
      · simp

omit hname in
theorem run_forcedReturn? (project : Project) (s : Session) (path : Path) :
    ∃ t, (forcedReturn? path name).run project s = (.ok (forcedReturn path name), t) ∧
      t.imports = s.imports := by
  unfold forcedReturn? forcedReturn
  split_ifs <;> exact ⟨_, rfl, rfl⟩

theorem run_write {signatures : List String} (hsome : signatures ≠ []) (project : Project)
    (s : Session) (path : Path) (docs : String) (spacing : Nat) :
    ∃ t, (write path name signatures docs { spacing }).run project s =
        (.ok (nameText name (signatures.map (withForced (forcedReturn path name))) docs spacing), t) ∧
      t.imports = if 1 < signatures.length then s.imports.insert "typing" else s.imports := by
  have hfront : decorators { spacing } (1 < signatures.length) =
      if 1 < signatures.length then "@typing.overload\n" else "" := by simp [decorators]
  have hplain : ∀ c ∈ (decorators { spacing } (1 < signatures.length)).toList, isPlain c = true := by
    rw [hfront]
    split <;> exact all_eq_true.1 (by decide)
  have hdemand : ∀ u : Session, ∃ t, (do
      let forced ← forcedReturn? path name
      demand (definitions (template (decorators { spacing } (1 < signatures.length)) name spacing)
        docs (signatures.map (withForced forced)))).run project u =
          (.ok (nameText name (signatures.map (withForced (forcedReturn path name))) docs spacing),
            t) ∧ t.imports = u.imports := by
    intro u
    obtain ⟨t, hrun, himports⟩ := run_forcedReturn? project u path
    refine ⟨t, run_bind_eq_ok.2 ⟨_, t, hrun, run_demand_eq_ok.2 ⟨?_, rfl⟩⟩, himports⟩
    rw [definitions_eq_ok hname hplain, hfront, nameText, length_map]
  unfold write
  rw [if_neg (by simpa using hsome)]
  dsimp only
  split
  · exact hdemand { s with imports := s.imports.insert "typing" }
  · exact hdemand s

end MethodText

namespace Method

open Gen MethodText Template

def Inserts (first : Option Parameter) (after : Method → Signature) (m : Method) : Prop :=
  first.elim (.ok m) m.insert = .ok { m with signature := some (after m) }

section
variable (path : Path) (spacing : Nat) {first : Option Parameter} (after : Method → Signature)

def overloads (methods : List Method) : List String :=
  (methods.map fun m => (after m).text).eraseDups

def defined (name : String) (methods : List Method) : List String :=
  (overloads after methods).map (withForced (forcedReturn path name))

def groupedText (name : String) (methods : List Method) : String :=
  nameText name (defined path after name methods) (groupDocs methods (methods.map after)) spacing

variable {after} {methods : List Method} (project : Project) (s : Session)

theorem run_insertAll (h : ∀ m ∈ methods, Inserts first after m) :
    (insertAll first methods).run project s =
      (.ok (methods.map fun m => { m with signature := some (after m) }), s) := by
  induction methods with
  | nil => rfl
  | cons m methods ih =>
    rw [forall_mem_cons] at h
    have hfirst : ((first.elim (pure m) fun p => demand (m.insert p) : Gen Method).run project s) =
        (.ok { m with signature := some (after m) }, s) := by
      cases first with
      | none => exact congrArg (·, s) h.1
      | some p => exact run_demand_eq_ok.2 ⟨h.1, rfl⟩
    cases first <;> exact run_bind_eq_ok.2 ⟨_, s, hfirst, run_bind_eq_ok.2 ⟨_, s, ih h.2, rfl⟩⟩

theorem run_groupText {name : String} (hname : ∀ c ∈ name.toList, isPlain c = true)
    (hsome : methods ≠ []) (h : ∀ m ∈ methods, Inserts first after m) :
    ∃ t, (groupText path first spacing name methods).run project s =
        (.ok (groupedText path spacing after name methods), t) ∧
      t.imports = if 1 < (overloads after methods).length then s.imports.insert "typing"
        else s.imports := by
  have hoverloads : overloads after methods ≠ [] := by
    obtain ⟨m, hm⟩ := exists_mem_of_ne_nil _ hsome
    exact ne_nil_of_mem (mem_eraseDups.2 (mem_map_of_mem hm))
  obtain ⟨t, hrun, himports⟩ := run_write hname hoverloads project s path
    (groupDocs methods (methods.map after)) spacing
  refine ⟨t, run_bind_eq_ok.2 ⟨_, s, run_insertAll project s h, ?_⟩, himports⟩
  have hsignatures : (methods.map fun m => { m with signature := some (after m) }).filterMap
      Method.signature = methods.map after := by
    rw [filterMap_map]
    exact congrFun filterMap_eq_map methods
  have hdocs : groupDocs (methods.map fun m => { m with signature := some (after m) })
      (methods.map after) = groupDocs methods (methods.map after) := by
    rw [groupDocs, findSome?_map]
    rfl
  dsimp only
  rw [hsignatures, hdocs, map_map]
  exact hrun

theorem run_groupTexts {groups : List (String × List Method)}
    (h : ∀ group ∈ groups, (∀ c ∈ group.1.toList, isPlain c = true) ∧ group.2 ≠ [] ∧
      ∀ m ∈ group.2, Inserts first after m) :
    ∃ t, (groupTexts path first spacing groups).run project s =
        (.ok (groups.map fun group => groupedText path spacing after group.1 group.2), t) ∧
      ∀ M, M ∈ t.imports.toList ↔ M ∈ s.imports.toList ∨
        M = "typing" ∧ ∃ group ∈ groups, 1 < (overloads after group.2).length := by
  induction groups generalizing s with
  | nil => exact ⟨s, rfl, by simp⟩
  | cons group groups ih =>
    obtain ⟨⟨hname, hsome, hinserts⟩, hrest⟩ := forall_mem_cons.1 h
    obtain ⟨u, hrun, himports⟩ := run_groupText path spacing project s hname hsome hinserts
    obtain ⟨t, hrun', himports'⟩ := ih u hrest
    refine ⟨t, run_bind_eq_ok.2 ⟨_, u, hrun, run_bind_eq_ok.2 ⟨_, t, hrun', rfl⟩⟩, fun M => ?_⟩
    rw [himports', himports]
    split_ifs with hmany
    · simp [OrderedSet.mem_insert, hmany]
      tauto
    · simp [hmany]

/-- Methods with signatures into which a first parameter can be inserted, with names without braces,
give one text for each name, in order of first appearance. It has one definition for each distinct
signature, in order of first appearance, which are overloads if there are several; all but the last
have an ellipsis, and that has the documentation. Only overloads need an import. The definitions of
a name differ exactly if no two of its signatures become the same by a fixed result. -/
theorem texts_define_each_name_once (hinserts : ∀ m ∈ methods, Inserts first after m)
    (hnames : ∀ m ∈ methods, ∀ c ∈ m.name.toList, isPlain c = true) :
    (∃ t, (texts path first spacing methods).run project s =
        (.ok ((methods.map Method.name).eraseDups.map fun name =>
          groupedText path spacing after name (methods.filter (·.name == name))), t) ∧
      ∀ M, M ∈ t.imports.toList ↔ M ∈ s.imports.toList ∨ M = "typing" ∧
        ∃ m ∈ methods, 1 < (overloads after (methods.filter (·.name == m.name))).length) ∧
    ∀ name, (defined path after name (methods.filter (·.name == name))).Nodup ↔
      ∀ a ∈ overloads after (methods.filter (·.name == name)),
        ∀ b ∈ overloads after (methods.filter (·.name == name)),
          withForced (forcedReturn path name) a = withForced (forcedReturn path name) b → a = b := by
  have hgroups : ∀ group ∈ groupByName methods, (∀ c ∈ group.1.toList, isPlain c = true) ∧
      group.2 ≠ [] ∧ ∀ m ∈ group.2, Inserts first after m := by
    intro group hgroup
    obtain ⟨name, hname, rfl⟩ := mem_map.1 hgroup
    obtain ⟨m, hm, rfl⟩ := mem_map.1 (mem_eraseDups.1 hname)
    have hmem : m ∈ methods.filter (·.name == m.name) :=
      mem_filter.2 ⟨hm, beq_self_eq_true m.name⟩
    exact ⟨hnames m hm, ne_nil_of_mem hmem, fun other hother =>
      hinserts other (mem_of_mem_filter hother)⟩
  obtain ⟨t, hrun, himports⟩ := run_groupTexts path spacing project s hgroups
  refine ⟨⟨t, ?_, fun M => ?_⟩, fun name => ?_⟩
  · rw [texts, hrun, groupByName, map_map]
    rfl
  · rw [himports]
    simp [groupByName]
  · exact nodup_map_iff_inj_on (OrderedSet.nodup_eraseDups _)

end

def documented (name : String) (signature : Signature) : Method where
  form := .called
  arguments := []
  name := name
  cppClass := ""
  function := ""
  doc := some "Text."
  signature := some signature

def selfSignature (m : Method) : Signature :=
  let signature := m.signature.getD {}
  { signature with parameters := Signature.adjustSelf (.self :: signature.parameters) }

/-- Two names in turn, of methods that get themselves as an argument: `b` has a signature twice, `a`
has two. -/
theorem texts_define_each_name_once_interleaved :
    ∃ t, (texts ⟨[]⟩ (some .self) 1 [documented "b" {}, documented "a" {}, documented "b" {},
        documented "a" { parameters := [.rest] }]).run .empty {} =
      (.ok ["def b(self):\n    \"\"\"Text.\"\"\"\n\n", "@typing.overload\ndef a(self): ...\n\n" ++
        "@typing.overload\ndef a(self, /, *args):\n    \"\"\"Text.\"\"\"\n\n"], t) := by
  have hinserts : ∀ m ∈ [documented "b" {}, documented "a" {}, documented "b" {},
      documented "a" { parameters := [.rest] }], Inserts (some .self) selfSignature m := by
    simp only [forall_mem_cons]
    exact ⟨rfl, rfl, rfl, rfl, by simp⟩
  obtain ⟨t, hrun, -⟩ := (texts_define_each_name_once ⟨[]⟩ 1 .empty {} hinserts
    (by simp [documented, isPlain])).1
  refine ⟨t, hrun.trans (congrArg (·, t) (congrArg Except.ok ?_))⟩
  decide +kernel

/-- A name with a field in braces gives no text. Two overloads of `activeDocument` that only differ
in their results are defined alike. -/
theorem texts_braced_name_and_fixed_result :
    ((texts ⟨[]⟩ none 1 [documented "a\x7bb\x7d" {}]).run .empty {}).1.toOption = none ∧
    ((texts ⟨["App"]⟩ none 1 [documented "activeDocument" {},
        documented "activeDocument" { returns := some ⟨.ofList ["None"]⟩ }]).run .empty {}).1.toOption =
      some ["@typing.overload\ndef activeDocument() -> FreeCAD.Document: ...\n\n" ++
        "@typing.overload\ndef activeDocument() -> FreeCAD.Document:\n    \"\"\"Text.\"\"\"\n\n"] := by
  decide +kernel

end Method

end BindingStubs
