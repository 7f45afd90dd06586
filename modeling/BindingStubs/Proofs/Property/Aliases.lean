import BindingStubs.Proofs.Property.Modules
import BindingStubs.Proofs.Session
import BindingStubs.Proofs.Stub.Store
import BindingStubs.Property.WriteType
import BindingStubs.Stub.Imports
import Mathlib.Data.List.Nodup
import Mathlib.Logic.Relation

set_option autoImplicit false

/-! # Aliases are declared before they are used -/

namespace BindingStubs

open List OrderedSet

namespace Property

namespace TypeAlias

mutual

@[elab_as_elim]
theorem ind {motive : TypeAlias → Prop}
    (step : ∀ a : TypeAlias, (∀ d ∈ a.dependencies, motive d) → motive a) : ∀ a, motive a
  | .named _ _ dependencies => step _ (forall_mem_ind step dependencies)
  | .free _ dependencies => step _ (forall_mem_ind step dependencies)

theorem forall_mem_ind {motive : TypeAlias → Prop}
    (step : ∀ a : TypeAlias, (∀ d ∈ a.dependencies, motive d) → motive a) :
    ∀ (aliases : List TypeAlias), ∀ a ∈ aliases, motive a
  | [] => forall_mem_nil _
  | a :: aliases => forall_mem_cons.2 ⟨ind step a, forall_mem_ind step aliases⟩

end

def line (a : TypeAlias) : String := Text.trim a.declaration

def SingleLine : TypeAlias → Prop
  | .named name definition _ => '\n' ∉ name.toList ∧ '\n' ∉ definition.toList
  | .free name _ => '\n' ∉ name.toList

def DependsOn : TypeAlias → TypeAlias → Prop := Relation.TransGen fun a b => b ∈ a.dependencies

def Uses : TypeAlias → TypeAlias → Prop := Relation.ReflTransGen fun a b => b ∈ a.dependencies

theorem declarations_eq (a : TypeAlias) :
    a.declarations = declarationsOf a.dependencies ++ [a.declaration] := by
  cases a <;> rfl

theorem declarationsOf_eq (aliases : List TypeAlias) :
    declarationsOf aliases = aliases.flatMap declarations := by
  induction aliases with
  | nil => rfl
  | cons a aliases ih => rw [declarationsOf, ih, flatMap_cons]

theorem declaration_mem_declarations (a : TypeAlias) : a.declaration ∈ a.declarations := by
  rw [declarations_eq]
  exact mem_append_right _ mem_cons_self

theorem mem_declarations_of_uses {a b : TypeAlias} (h : a.Uses b) :
    b.declaration ∈ a.declarations := by
  induction h using Relation.ReflTransGen.head_induction_on with
  | refl => exact b.declaration_mem_declarations
  | head hd _ ih =>
    rw [declarations_eq, declarationsOf_eq]
    exact mem_append_left _ (mem_flatMap_of_mem hd ih)

theorem exists_uses_of_mem_declarations {a : TypeAlias} {d : String} (h : d ∈ a.declarations) :
    ∃ b, a.Uses b ∧ d = b.declaration := by
  induction a using ind with
  | step a ih =>
    rw [declarations_eq, declarationsOf_eq] at h
    rcases mem_append.1 h with h | h
    · obtain ⟨e, he, hd⟩ := mem_flatMap.1 h
      obtain ⟨b, hb, rfl⟩ := ih e he hd
      exact ⟨b, .head he hb, rfl⟩
    · exact ⟨a, .refl, mem_singleton.1 h⟩

theorem SingleLine.declaration {a : TypeAlias} (h : a.SingleLine) : '\n' ∉ a.declaration.toList := by
  cases a with
  | named name definition dependencies =>
    simp only [SingleLine] at h
    simp [TypeAlias.declaration, h.1, h.2]
  | free name dependencies =>
    simp only [SingleLine] at h
    simp [TypeAlias.declaration, h]

def mark : TypeAlias → String
  | .named _ _ _ => ": typing.TypeAlias ="
  | .free _ _ => "= typing.TypeVar("

theorem mark_within_line (a : TypeAlias) : Text.Within a.mark a.line := by
  have hwithin : a.mark.toList <:+: a.declaration.toList := by
    cases a with
    | named name definition dependencies =>
      refine ⟨name.toList, ' ' :: definition.toList, ?_⟩
      simp [mark, declaration]
    | free name dependencies =>
      refine ⟨name.toList ++ [' '], '"' :: name.toList ++ ['"', ')'], ?_⟩
      simp [mark, declaration]
  rw [Text.Within, line, Text.trim, String.toList_ofList]
  apply Chars.infix_trim_of_ends _ _ hwithin
  · cases a <;> simp only [mark] <;> decide
  · cases a <;> simp only [mark] <;> decide

theorem exists_divides (a : TypeAlias) : ∃ c ∈ a.line.toList, divides c = true := by
  refine ⟨'=', a.mark_within_line.subset ?_, by decide⟩
  cases a <;> simp only [mark] <;> decide

theorem declaresType_line (a : TypeAlias) : declaresType a.line = true := by
  have hmark := a.mark_within_line
  rw [declaresType, Bool.or_eq_true, Text.contains, Text.contains, Chars.contains_iff_infix,
    Chars.contains_iff_infix]
  cases a with
  | named => exact .inl (List.IsInfix.trans ⟨[':', ' '], [' ', '='], by simp [mark]⟩ hmark)
  | free => exact .inr (List.IsInfix.trans ⟨['=', ' '], ['('], by simp [mark]⟩ hmark)

end TypeAlias

open TypeAlias (declarationsOf declarationsOf_eq)

structure AliasedType where
  aliases : List TypeAlias
  type : String

namespace AliasedType

def text (t : AliasedType) : String := TypeAlias.lines t.aliases ++ t.type

structure IsLine (t : AliasedType) : Prop where
  single : '\n' ∉ t.type.toList
  solid : Text.trim t.type ≠ ""
  plain : declaresType (Text.trim t.type) = false

/-- The entries that a declaration adds: the modules it mentions and its line. -/
def entriesOf (declaration : String) : List String :=
  modulesIn (Text.trim declaration) ++ [Text.trim declaration]

def entries (t : AliasedType) : List String :=
  (declarationsOf t.aliases).flatMap entriesOf ++ modulesIn (Text.trim t.type)

end AliasedType

def adding (s : Session) (names : List String) : Session :=
  { s with imports := s.imports.insertAll names }

theorem adding_append (s : Session) (names more : List String) :
    adding s (names ++ more) = adding (adding s names) more := by
  simp only [adding, insertAll_append]

theorem run_need_bind {α : Type} (name : String) (next : Unit → Gen α) (project : Project)
    (s : Session) :
    (Gen.need name >>= next).run project s = (next ()).run project (adding s [name]) := by
  rw [Gen.run_bind]
  rfl

theorem run_needAll_bind {α : Type} (names : List String) (next : Unit → Gen α)
    (project : Project) (s : Session) :
    (Gen.needAll names >>= next).run project s = (next ()).run project (adding s names) := by
  rw [Gen.run_bind]
  rfl

theorem run_typeLine {declarations : List String} {type : String}
    (hdeclarations : ∀ d ∈ declarations, declaresType (Text.trim d) = true)
    (hsolid : Text.trim type ≠ "") (hplain : declaresType (Text.trim type) = false)
    (project : Project) (s : Session) :
    (typeLine (declarations ++ [type])).run project s =
      (.ok (Text.trim type), adding s (declarations.flatMap AliasedType.entriesOf)) := by
  induction declarations generalizing s with
  | nil =>
    have hempty : (Text.trim type).isEmpty = false := by
      rw [Bool.eq_false_iff, ne_eq, String.isEmpty_iff]
      exact hsolid
    simp only [nil_append, typeLine, hplain, hempty]
    rfl
  | cons d declarations ih =>
    have hd : declaresType (Text.trim d) = true := hdeclarations d mem_cons_self
    have hrest := ih fun d hd => hdeclarations d (mem_cons_of_mem _ hd)
    rw [cons_append, typeLine, if_pos hd, run_needAll_bind, run_need_bind, hrest,
      flatMap_cons, adding_append, AliasedType.entriesOf, adding_append]

theorem lines_append_eq_join (aliases : List TypeAlias) (type : String) :
    TypeAlias.lines aliases ++ type =
      Text.join "\n" (declarationsOf aliases ++ [type]) := by
  rw [TypeAlias.lines]
  induction declarationsOf aliases with
  | nil => simp [Text.join]
  | cons d declarations ih =>
    have hcons : ∀ rest : List String, rest ≠ [] →
        Text.join "\n" (d :: rest) = d ++ "\n" ++ Text.join "\n" rest := by
      intro rest hrest
      obtain ⟨e, rest, rfl⟩ := exists_cons_of_ne_nil hrest
      simp [Text.join, String.append_assoc]
    rw [cons_append, hcons _ (by simp), ← ih]
    simp [String.append_assoc]

variable {t : AliasedType}

theorem run_settledType (hline : t.IsLine)
    (hsingle : ∀ d ∈ declarationsOf t.aliases, '\n' ∉ d.toList)
    (hdeclarations : ∀ d ∈ declarationsOf t.aliases, declaresType (Text.trim d) = true)
    (project : Project) (s : Session) :
    (settledType t.text).run project s = (.ok (Text.trim t.type), adding s t.entries) := by
  have hlines : Text.split t.text "\n" = declarationsOf t.aliases ++ [t.type] := by
    have hpieces : ∀ d ∈ declarationsOf t.aliases ++ [t.type], '\n' ∉ d.toList := by
      intro d hd
      rcases mem_append.1 hd with hd | hd
      · exact hsingle d hd
      · rw [mem_singleton.1 hd]
        exact hline.single
    rw [AliasedType.text, lines_append_eq_join, Text.split_join rfl (by simp) hpieces]
  have hempty : t.text.isEmpty = false := by
    rw [Bool.eq_false_iff, ne_eq, String.isEmpty_iff, AliasedType.text]
    intro h
    have htype : t.type = "" := (String.append_eq_empty_iff.1 h).2
    exact hline.solid (by rw [htype]; rfl)
  have hrun := run_typeLine hdeclarations hline.solid hline.plain project s
  simp only [settledType, hempty, Bool.false_eq_true, if_false, hlines, Gen.run_bind, hrun]
  rw [AliasedType.entries, adding_append]
  rfl

section Grounded

variable {α : Type} {needs : α → α → Prop}

/-- What an entry needs has been seen before it, in the list or before the list. -/
inductive Grounded (needs : α → α → Prop) : (seen : List α) → List α → Prop
  | nil (seen : List α) : Grounded needs seen []
  | cons {seen xs : List α} {x : α} (hx : ∀ y, needs x y → y ∈ seen)
      (hxs : Grounded needs (x :: seen) xs) : Grounded needs seen (x :: xs)

theorem Grounded.mono {seen more xs : List α} (hsub : seen ⊆ more) (h : Grounded needs seen xs) :
    Grounded needs more xs := by
  induction h generalizing more with
  | nil => exact .nil more
  | cons hx _ ih =>
    exact .cons (fun y hy => hsub (hx y hy)) (ih (cons_subset_cons _ hsub))

theorem grounded_append {seen xs ys : List α} :
    Grounded needs seen (xs ++ ys) ↔
      Grounded needs seen xs ∧ Grounded needs (xs.reverse ++ seen) ys := by
  induction xs generalizing seen with
  | nil => simp [Grounded.nil]
  | cons x xs ih =>
    rw [cons_append, reverse_cons, append_assoc, singleton_append]
    constructor
    · rintro (_ | ⟨hx, hrest⟩)
      obtain ⟨hxs, hys⟩ := ih.1 hrest
      exact ⟨.cons hx hxs, hys⟩
    · rintro ⟨_ | ⟨hx, hxs⟩, hys⟩
      exact .cons hx (ih.2 ⟨hxs, hys⟩)

theorem Grounded.append {xs ys : List α} (hx : Grounded needs [] xs) (hy : Grounded needs [] ys) :
    Grounded needs [] (xs ++ ys) :=
  grounded_append.2 ⟨hx, hy.mono (nil_subset _)⟩

theorem Grounded.concat {xs : List α} {x : α} (h : Grounded needs [] xs)
    (hx : ∀ y, needs x y → y ∈ xs) : Grounded needs [] (xs ++ [x]) := by
  refine grounded_append.2 ⟨h, .cons ?_ (.nil _)⟩
  simpa using hx

theorem Grounded.flatMap {β : Type} {f : β → List α} {items : List β}
    (h : ∀ item ∈ items, Grounded needs [] (f item)) : Grounded needs [] (items.flatMap f) := by
  induction items with
  | nil => exact .nil _
  | cons item items ih =>
    rw [flatMap_cons]
    exact (h item mem_cons_self).append (ih fun i hi => h i (mem_cons_of_mem _ hi))

theorem grounded_of_needless {seen xs : List α} (h : ∀ x ∈ xs, ∀ y, ¬ needs x y) :
    Grounded needs seen xs := by
  induction xs generalizing seen with
  | nil => exact .nil _
  | cons x xs ih =>
    refine .cons (fun y hy => absurd hy (h x mem_cons_self y)) ?_
    exact ih fun z hz => h z (mem_cons_of_mem _ hz)

theorem Grounded.insertAll [DecidableEq α] {s : OrderedSet α} {items : List α}
    (hs : Grounded needs [] s.toList) (hitems : Grounded needs s.toList items) :
    Grounded needs [] (s.insertAll items).toList := by
  induction items generalizing s with
  | nil => exact hs
  | cons x items ih =>
    obtain _ | ⟨hx, hrest⟩ := hitems
    rw [insertAll_cons]
    have hseen : x :: s.toList ⊆ (s.insert x).toList := by
      intro y hy
      rw [mem_insert]
      exact (mem_cons.1 hy).symm
    refine ih ?_ (hrest.mono hseen)
    rw [toList_insert]
    split
    · exact hs
    · exact hs.concat hx

theorem Grounded.ofList [DecidableEq α] {items : List α} (h : Grounded needs [] items) :
    Grounded needs [] (ofList items).toList :=
  Grounded.insertAll (.nil _) h

theorem Grounded.needs_before {before after : List α} {x y : α}
    (h : Grounded needs [] (before ++ x :: after)) (hy : needs x y) : y ∈ before := by
  obtain _ | ⟨hx, -⟩ := (grounded_append.1 h).2
  simpa using hx y hy

theorem Grounded.mem_before {before after : List α} {x y : α}
    (h : Grounded needs [] (before ++ x :: after)) (hy : Relation.TransGen needs x y) :
    y ∈ before := by
  induction hy using Relation.TransGen.head_induction_on generalizing before after with
  | single hxy => exact h.needs_before hxy
  | head hxz _ ih =>
    obtain ⟨first, second, rfl⟩ := append_of_mem (h.needs_before hxz)
    rw [append_assoc, cons_append] at h
    exact mem_append_left _ (ih h)

end Grounded

/-- Aliases that can be told apart by their lines: each is written on one line that is not an import
line, and those with one line depend on aliases with the same lines. -/
structure Family (reached : TypeAlias → Prop) : Prop where
  single : ∀ a, reached a → a.SingleLine
  declared : ∀ a, reached a → Text.startsWith a.line "from " = false
  coherent : ∀ a b, reached a → reached b → a.line = b.line →
    ∀ d ∈ a.dependencies, ∃ e ∈ b.dependencies, e.line = d.line

def LineNeeds (reached : TypeAlias → Prop) (x y : String) : Prop :=
  ∃ a, reached a ∧ x = a.line ∧ ∃ d ∈ a.dependencies, y = d.line

section Family

variable {reached : TypeAlias → Prop}

theorem grounded_modulesIn (reached : TypeAlias → Prop) (type : String) :
    Grounded (LineNeeds reached) [] (modulesIn type) := by
  apply grounded_of_needless
  rintro name hname y ⟨a, -, rfl, -⟩
  obtain ⟨c, hc, hdivides⟩ := a.exists_divides
  rw [(within_of_mem_modulesIn hname).2 c hc] at hdivides
  cases hdivides

theorem Family.grounded_declarations (family : Family reached)
    (hclosed : ∀ a, reached a → ∀ d ∈ a.dependencies, reached d) (a : TypeAlias) (ha : reached a) :
    Grounded (LineNeeds reached) [] (a.declarations.flatMap AliasedType.entriesOf) := by
  induction a using TypeAlias.ind with
  | step a ih =>
    have hdependencies : Grounded (LineNeeds reached) []
        ((declarationsOf a.dependencies).flatMap AliasedType.entriesOf) := by
      rw [declarationsOf_eq, flatMap_assoc]
      exact Grounded.flatMap fun d hd => ih d hd (hclosed a ha d hd)
    have hmodules := grounded_modulesIn reached a.line
    rw [TypeAlias.declarations_eq, flatMap_append, flatMap_singleton,
      AliasedType.entriesOf, ← TypeAlias.line, ← append_assoc]
    apply (hdependencies.append hmodules).concat
    -- Another alias with this line may stand behind the need; it needs lines of this one.
    rintro y ⟨b, hb, hline, d, hd, rfl⟩
    obtain ⟨e, he, hsame⟩ := family.coherent b a hb ha hline.symm d hd
    have hmem : e.line ∈ (declarationsOf a.dependencies).flatMap AliasedType.entriesOf := by
      rw [declarationsOf_eq, flatMap_assoc]
      refine mem_flatMap_of_mem he (mem_flatMap_of_mem e.declaration_mem_declarations ?_)
      exact mem_append_right _ mem_cons_self
    rw [hsame] at hmem
    exact mem_append_left _ hmem

theorem Family.grounded_entries (family : Family reached)
    (hclosed : ∀ a, reached a → ∀ d ∈ a.dependencies, reached d) (ht : ∀ a ∈ t.aliases, reached a) :
    Grounded (LineNeeds reached) [] t.entries := by
  rw [AliasedType.entries, declarationsOf_eq, flatMap_assoc]
  apply Grounded.append
  · exact Grounded.flatMap fun a ha => family.grounded_declarations hclosed a (ht a ha)
  · exact grounded_modulesIn reached _

end Family

structure AliasedProperty where
  name : String
  read : AliasedType
  write : AliasedType
  docs : String
  readOnly : Bool

namespace AliasedProperty

def definition (p : AliasedProperty) : Definition :=
  { name := p.name, readType := p.read.text, writeType := p.write.text, docs := p.docs,
    readOnly := p.readOnly }

/-- The types that the definition is written with; nothing is written to a read-only property. -/
def types (p : AliasedProperty) : List AliasedType :=
  if p.readOnly then [p.read] else [p.read, p.write]

end AliasedProperty

def writeAll : List AliasedProperty → Gen String
  | [] => return ""
  | p :: rest => do
    let text ← p.definition.text
    return text ++ (← writeAll rest)

def generated (project : Project) (props : List AliasedProperty) : ModuleRecord :=
  match (writeAll props).run project {} with
  | (.ok text, s) => .leaf text s.imports.toList
  | (.error _, s) => .leaf "" s.imports.toList

def merged (project : Project) (generators : List (List AliasedProperty)) : ModuleRecord :=
  generators.foldl (fun m props => m.update (generated project props)) {}

def typesOf (generators : List (List AliasedProperty)) : List AliasedType :=
  generators.flatten.flatMap AliasedProperty.types

def Reached (generators : List (List AliasedProperty)) (a : TypeAlias) : Prop :=
  ∃ t ∈ typesOf generators, ∃ b ∈ t.aliases, b.Uses a

variable {generators : List (List AliasedProperty)}

theorem Reached.dependency {a d : TypeAlias} (h : Reached generators a) (hd : d ∈ a.dependencies) :
    Reached generators d := by
  obtain ⟨t, ht, b, hb, huses⟩ := h
  exact ⟨t, ht, b, hb, huses.tail hd⟩

section Runs

variable {generators : List (List AliasedProperty)}

theorem Family.run_settledType (family : Family (Reached generators)) (ht : t ∈ typesOf generators)
    (hline : t.IsLine) (project : Project) (s : Session) :
    (settledType t.text).run project s = (.ok (Text.trim t.type), adding s t.entries) := by
  have hdeclared : ∀ d ∈ declarationsOf t.aliases,
      ∃ a, Reached generators a ∧ d = a.declaration := by
    intro d hd
    rw [declarationsOf_eq] at hd
    obtain ⟨b, hb, hd⟩ := mem_flatMap.1 hd
    obtain ⟨a, huses, rfl⟩ := TypeAlias.exists_uses_of_mem_declarations hd
    exact ⟨a, ⟨t, ht, b, hb, huses⟩, rfl⟩
  apply Property.run_settledType hline
  · intro d hd
    obtain ⟨a, ha, rfl⟩ := hdeclared d hd
    exact (family.single a ha).declaration
  · intro d hd
    obtain ⟨a, -, rfl⟩ := hdeclared d hd
    exact a.declaresType_line

theorem Family.run_text (family : Family (Reached generators))
    (hlines : ∀ t ∈ typesOf generators, t.IsLine) {p : AliasedProperty}
    (hp : p ∈ generators.flatten) (project : Project) (s : Session) :
    ∃ text, p.definition.text.run project s =
      (.ok text, adding s (p.types.flatMap AliasedType.entries)) := by
  have hrun : ∀ t ∈ p.types, ∀ s, (settledType t.text).run project s =
      (.ok (Text.trim t.type), adding s t.entries) := by
    intro t ht s
    have hmem : t ∈ typesOf generators := mem_flatMap_of_mem hp ht
    exact family.run_settledType hmem (hlines t hmem) project s
  rw [AliasedProperty.types] at hrun ⊢
  cases hreadOnly : p.readOnly with
  | true =>
    rw [hreadOnly] at hrun
    have hread := hrun p.read (by simp) s
    simp only [Definition.text, AliasedProperty.definition, Gen.run_bind, hread, hreadOnly, if_true,
      flatMap_singleton]
    exact ⟨_, rfl⟩
  | false =>
    rw [hreadOnly] at hrun
    have hread := hrun p.read (by simp) s
    have hwrite := hrun p.write (by simp) (adding s p.read.entries)
    simp only [Definition.text, AliasedProperty.definition, Gen.run_bind, hread, hreadOnly,
      Bool.false_eq_true, if_false, hwrite, flatMap_cons, flatMap_nil, append_nil,
      adding_append]
    exact ⟨_, rfl⟩

theorem Family.run_writeAll (family : Family (Reached generators))
    (hlines : ∀ t ∈ typesOf generators, t.IsLine) {props : List AliasedProperty}
    (hprops : props ⊆ generators.flatten) (project : Project) (s : Session) :
    ∃ text, (writeAll props).run project s =
      (.ok text, adding s ((props.flatMap AliasedProperty.types).flatMap AliasedType.entries)) := by
  induction props generalizing s with
  | nil => exact ⟨"", rfl⟩
  | cons p props ih =>
    obtain ⟨hp, hrest⟩ := cons_subset.1 hprops
    obtain ⟨text, htext⟩ := family.run_text hlines hp project s
    obtain ⟨others, hothers⟩ := ih hrest (adding s (p.types.flatMap AliasedType.entries))
    simp only [writeAll, Gen.run_bind, htext, hothers, flatMap_cons, flatMap_append,
      adding_append]
    exact ⟨_, rfl⟩

def collected (props : List AliasedProperty) : List String :=
  (ofList ((props.flatMap AliasedProperty.types).flatMap AliasedType.entries)).toList

theorem Family.generated_eq (family : Family (Reached generators))
    (hlines : ∀ t ∈ typesOf generators, t.IsLine) {props : List AliasedProperty}
    (hprops : props ∈ generators) (project : Project) :
    ∃ text, generated project props = .leaf text (collected props) := by
  have hsub : props ⊆ generators.flatten := fun p hp => mem_flatten_of_mem hprops hp
  obtain ⟨text, hrun⟩ := family.run_writeAll hlines hsub project {}
  rw [generated, hrun]
  exact ⟨text, rfl⟩

theorem Family.imports_merged (family : Family (Reached generators))
    (hlines : ∀ t ∈ typesOf generators, t.IsLine) (project : Project) :
    (merged project generators).imports = ofList (generators.flatMap collected) := by
  have hfold : ∀ (some : List (List AliasedProperty)) (m : ModuleRecord), some ⊆ generators →
      (some.foldl (fun m props => m.update (generated project props)) m).imports =
        m.imports.insertAll (some.flatMap collected) := by
    intro some
    induction some with
    | nil => exact fun m _ => rfl
    | cons props some ih =>
      intro m hsub
      obtain ⟨hprops, hrest⟩ := cons_subset.1 hsub
      obtain ⟨text, hgenerated⟩ := family.generated_eq hlines hprops project
      have hupdate := congrArg Prod.snd (ModuleRecord.own_update_leaf m text (collected props))
      rw [foldl_cons, ih _ hrest, hgenerated, flatMap_cons, insertAll_append]
      exact congrArg (insertAll · _) hupdate
  exact hfold generators {} (List.Subset.refl _)

theorem mem_flatMap_collected {entry : String} :
    entry ∈ generators.flatMap collected ↔ ∃ t ∈ typesOf generators, entry ∈ t.entries := by
  simp only [collected, typesOf, mem_flatMap, toList_ofList, mem_eraseDups,
    mem_flatten]
  constructor
  · rintro ⟨props, hprops, t, ⟨p, hp, ht⟩, hentry⟩
    exact ⟨t, ⟨p, ⟨props, hprops, hp⟩, ht⟩, hentry⟩
  · rintro ⟨t, ⟨p, ⟨props, hprops, hp⟩, ht⟩, hentry⟩
    exact ⟨props, hprops, t, ⟨p, hp, ht⟩, hentry⟩

theorem Family.mem_imports_merged (family : Family (Reached generators))
    (hlines : ∀ t ∈ typesOf generators, t.IsLine) (project : Project) {entry : String} :
    entry ∈ (merged project generators).imports.toList ↔
      ∃ t ∈ typesOf generators, entry ∈ t.entries := by
  rw [family.imports_merged hlines, toList_ofList, mem_eraseDups,
    mem_flatMap_collected]

theorem Family.grounded_merged (family : Family (Reached generators))
    (hlines : ∀ t ∈ typesOf generators, t.IsLine) (project : Project) :
    Grounded (LineNeeds (Reached generators)) [] (merged project generators).imports.toList := by
  rw [family.imports_merged hlines]
  apply Grounded.ofList
  apply Grounded.flatMap
  intro props hprops
  apply Grounded.ofList
  apply Grounded.flatMap
  intro t ht
  apply family.grounded_entries fun a ha d hd => ha.dependency hd
  obtain ⟨p, hp, ht⟩ := mem_flatMap.1 ht
  have hmem : t ∈ typesOf generators :=
    mem_flatMap_of_mem (mem_flatten_of_mem hprops hp) ht
  exact fun a ha => ⟨t, hmem, a, ha, .refl⟩

theorem mem_entries_line {a b : TypeAlias} (hb : b ∈ t.aliases) (h : b.Uses a) :
    a.line ∈ t.entries := by
  rw [AliasedType.entries, declarationsOf_eq]
  apply mem_append_left
  refine mem_flatMap_of_mem (mem_flatMap_of_mem hb (b.mem_declarations_of_uses h)) ?_
  exact mem_append_right _ mem_cons_self

theorem notMem_of_mem_modulesIn {type name : String} {c : Char} (h : name ∈ modulesIn type)
    (hc : c ∉ type.toList) : c ∉ name.toList :=
  fun hmem => hc ((within_of_mem_modulesIn h).1.subset hmem)

theorem Family.single_entries (family : Family (Reached generators)) (ht : t ∈ typesOf generators)
    (hline : t.IsLine) : ∀ entry ∈ t.entries, '\n' ∉ entry.toList := by
  have htrim : ∀ {text : String}, '\n' ∉ text.toList → '\n' ∉ (Text.trim text).toList :=
    fun htext hmem => htext ((Text.Within.refl _).trim.subset hmem)
  intro entry hentry
  rcases mem_append.1 hentry with hentry | hentry
  · obtain ⟨d, hd, hentry⟩ := mem_flatMap.1 hentry
    rw [declarationsOf_eq] at hd
    obtain ⟨b, hb, hd⟩ := mem_flatMap.1 hd
    obtain ⟨a, huses, rfl⟩ := TypeAlias.exists_uses_of_mem_declarations hd
    have hsingle := htrim (family.single a ⟨t, ht, b, hb, huses⟩).declaration
    rcases mem_append.1 hentry with hentry | hentry
    · exact notMem_of_mem_modulesIn hentry hsingle
    · rwa [mem_singleton.1 hentry]
  · exact notMem_of_mem_modulesIn hentry (htrim hline.single)

end Runs

theorem stub_declaresType_of_declaresType {line : String} (h : declaresType line = true) :
    BindingStubs.StubModule.declaresType line = true := by
  have hshorter : ∀ {long short : String}, short.toList <:+: long.toList →
      Text.contains line long = true → Text.contains line short = true := by
    intro long short hpart hlong
    rw [Text.contains, Chars.contains_iff_infix] at hlong ⊢
    exact hpart.trans hlong
  rw [BindingStubs.StubModule.declaresType, Bool.or_eq_true, Bool.or_eq_true]
  rcases (Bool.or_eq_true _ _).mp h with h | h
  · exact .inl (.inl (hshorter ⟨"typing.".toList, [], by decide⟩ h))
  · exact .inl (.inr (hshorter ⟨"typing.".toList, [], by decide⟩ h))

def isDeclared (entry : String) : Bool :=
  !Text.startsWith entry "from " && StubModule.declaresType entry

theorem placed_ne_declaration (moduleName line text : String) :
    StubModule.placed moduleName line ≠ .declaration text := by
  rw [StubModule.placed]
  split <;> exact StubModule.ImportLine.noConfusion

theorem not_contains_lineFeed {entry : String} (hsingle : '\n' ∉ entry.toList) :
    ¬ Text.contains entry "\n" = true := by
  rw [Text.contains, Chars.contains_iff_infix]
  exact fun h => hsingle (h.subset (by decide))

theorem importLine_of_isDeclared {entry : String} (hsingle : '\n' ∉ entry.toList)
    (h : isDeclared entry = true) : StubModule.importLine entry = .declaration entry := by
  obtain ⟨hfrom, hdeclares⟩ := Bool.and_eq_true_iff.1 h
  rw [StubModule.importLine, if_neg (by simpa using hfrom),
    if_neg (not_contains_lineFeed hsingle), if_pos hdeclares]

theorem importLine_ne_declaration {entry : String} (hsingle : '\n' ∉ entry.toList)
    (h : isDeclared entry = false) (text : String) :
    StubModule.importLine entry ≠ .declaration text := by
  rw [StubModule.importLine, if_neg (not_contains_lineFeed hsingle)]
  split
  · exact placed_ne_declaration _ _ _
  · next hfrom =>
    have hdeclares : ¬ StubModule.declaresType entry = true := by
      simpa [isDeclared, hfrom] using h
    rw [if_neg hdeclares]
    split <;> exact placed_ne_declaration _ _ _

theorem declarationLines_map_importLine {imports : List String}
    (hsingle : ∀ entry ∈ imports, '\n' ∉ entry.toList) :
    StubModule.declarationLines (imports.map StubModule.importLine) = imports.filter isDeclared := by
  rw [StubModule.declarationLines, filterMap_map, ← filterMap_eq_filter]
  apply filterMap_congr
  intro entry hentry
  rw [Function.comp_apply, Option.guard]
  cases h : isDeclared entry with
  | true => rw [importLine_of_isDeclared (hsingle entry hentry) h, if_pos rfl]
  | false =>
    have hother := importLine_ne_declaration (hsingle entry hentry) h
    rw [if_neg Bool.false_ne_true]
    split
    · next text hline => exact absurd hline (hother text)
    · rfl

theorem importBlock_eq {imports : List String}
    (h : Text.join "\n" (StubModule.declarationLines (imports.map StubModule.importLine)) ≠ "") :
    ∃ head, StubModule.importBlock imports = head ++
        Text.join "\n" (StubModule.declarationLines (imports.map StubModule.importLine)) ++
          "\n\n\n" ∧ (head = "" ∨ ∃ rest, head = rest ++ "\n\n") := by
  unfold StubModule.importBlock
  dsimp only
  generalize Text.join "\n" (StubModule.declarationLines (imports.map StubModule.importLine)) = types
    at h ⊢
  generalize Text.join "\n" (Text.sorted (StubModule.standardLines _)) = standard
  generalize Text.join "\n" (Text.sorted (StubModule.otherLines _)) = other
  by_cases hstandard : standard = "" <;> by_cases hother : other = ""
  · refine ⟨"", ?_, .inl rfl⟩
    simp [hstandard, hother, h, Text.join]
  · refine ⟨other ++ "\n\n", ?_, .inr ⟨other, rfl⟩⟩
    simp [hstandard, hother, h, Text.join]
  · refine ⟨standard ++ "\n\n", ?_, .inr ⟨standard, rfl⟩⟩
    simp [hstandard, hother, h, Text.join]
  · refine ⟨standard ++ "\n\n" ++ other ++ "\n\n", ?_, .inr ⟨_, rfl⟩⟩
    simp [hstandard, hother, h, Text.join, String.append_assoc]

theorem Family.isDeclared_line {reached : TypeAlias → Prop} (family : Family reached) {a : TypeAlias}
    (ha : reached a) : isDeclared a.line = true := by
  rw [isDeclared, family.declared a ha, stub_declaresType_of_declaresType a.declaresType_line]
  rfl

theorem Reached.lineNeeds {a b : TypeAlias} (ha : Reached generators a) (h : a.DependsOn b) :
    Relation.TransGen (LineNeeds (Reached generators)) a.line b.line ∧ Reached generators b := by
  induction h with
  | single hd => exact ⟨.single ⟨a, ha, rfl, _, hd, rfl⟩, ha.dependency hd⟩
  | tail _ hd ih => exact ⟨ih.1.tail ⟨_, ih.2, rfl, _, hd, rfl⟩, ih.2.dependency hd⟩

def declaredLines (m : ModuleRecord) : List String :=
  StubModule.declarationLines (m.imports.toList.map StubModule.importLine)

theorem sublist_filter_of_before {α : Type} {p : α → Bool} {before after : List α} {x y : α}
    (hx : p x = true) (hy : p y = true) (h : y ∈ before) :
    [y, x].Sublist ((before ++ x :: after).filter p) := by
  rw [filter_append, filter_cons_of_pos hx]
  have hfirst : [y].Sublist (before.filter p) := singleton_sublist.2 (mem_filter.2 ⟨h, hy⟩)
  exact hfirst.append (singleton_sublist.2 mem_cons_self)

/-- Aliases are declared before they are used. Properties with types that are written with aliases,
collected by any number of generators and merged into one module: every generator writes its
properties, the declarations of types are one block at the end of the imports, a line each, and
every alias reached is declared on exactly one line, after all aliases that it depends on. -/
theorem aliases_declared_in_order (project : Project) (generators : List (List AliasedProperty))
    (hlines : ∀ t ∈ typesOf generators, t.IsLine) (family : Family (Reached generators)) :
    (∀ props ∈ generators, ∃ text, ((writeAll props).run project {}).1 = .ok text) ∧
      ∀ a, Reached generators a →
        (∃ head, StubModule.importBlock (merged project generators).imports.toList =
            head ++ Text.join "\n" (declaredLines (merged project generators)) ++ "\n\n\n" ∧
          (head = "" ∨ ∃ rest, head = rest ++ "\n\n")) ∧
        Text.split (Text.join "\n" (declaredLines (merged project generators))) "\n" =
          declaredLines (merged project generators) ∧
        (declaredLines (merged project generators)).count a.line = 1 ∧
        ∀ b, a.DependsOn b →
          [b.line, a.line].Sublist (declaredLines (merged project generators)) := by
  have hmem : ∀ {a}, Reached generators a →
      a.line ∈ (merged project generators).imports.toList := by
    rintro a ⟨t, ht, b, hb, huses⟩
    exact (family.mem_imports_merged hlines project).2 ⟨t, ht, mem_entries_line hb huses⟩
  have hsingle : ∀ entry ∈ (merged project generators).imports.toList, '\n' ∉ entry.toList := by
    intro entry hentry
    obtain ⟨t, ht, hentry⟩ := (family.mem_imports_merged hlines project).1 hentry
    exact family.single_entries ht (hlines t ht) entry hentry
  have hdeclared : declaredLines (merged project generators) =
      (merged project generators).imports.toList.filter isDeclared :=
    declarationLines_map_importLine hsingle
  constructor
  · intro props hprops
    have hsub : props ⊆ generators.flatten := fun p hp => mem_flatten_of_mem hprops hp
    obtain ⟨text, hrun⟩ := family.run_writeAll hlines hsub project {}
    exact ⟨text, by rw [hrun]⟩
  intro a ha
  have hline : a.line ∈ declaredLines (merged project generators) := by
    rw [hdeclared]
    exact mem_filter.2 ⟨hmem ha, family.isDeclared_line ha⟩
  have hsplit : Text.split (Text.join "\n" (declaredLines (merged project generators))) "\n" =
      declaredLines (merged project generators) := by
    rw [Text.split_join rfl (ne_nil_of_mem hline)]
    intro entry hentry
    rw [hdeclared] at hentry
    exact hsingle entry (mem_filter.1 hentry).1
  refine ⟨?_, hsplit, ?_, ?_⟩
  · apply importBlock_eq
    intro hempty
    have hall : declaredLines (merged project generators) = [""] := by
      rw [← hsplit, declaredLines, hempty]
      decide
    obtain ⟨c, hc, -⟩ := a.exists_divides
    rw [hall, mem_singleton] at hline
    rw [hline] at hc
    simp at hc
  · have hnodup : (declaredLines (merged project generators)).Nodup := by
      rw [hdeclared]
      exact (merged project generators).imports.nodup.filter _
    exact count_eq_one_of_mem hnodup hline
  · intro b hb
    obtain ⟨hneeds, hreached⟩ := ha.lineNeeds hb
    obtain ⟨before, after, hplace⟩ := append_of_mem (hmem ha)
    have hgrounded := family.grounded_merged hlines project
    rw [hplace] at hgrounded
    rw [hdeclared, hplace]
    exact sublist_filter_of_before (family.isDeclared_line ha) (family.isDeclared_line hreached)
      (hgrounded.mem_before hneeds)

theorem Reached.mem_of_closed {aliases : List TypeAlias}
    (hroots : ∀ t ∈ typesOf generators, ∀ b ∈ t.aliases, b ∈ aliases)
    (hclosed : ∀ a ∈ aliases, ∀ d ∈ a.dependencies, d ∈ aliases) {a : TypeAlias}
    (h : Reached generators a) : a ∈ aliases := by
  obtain ⟨t, ht, b, hb, huses⟩ := h
  induction huses with
  | refl => exact hroots t ht b hb
  | tail _ hd ih => exact hclosed _ ih _ hd

/-- Two generators with three properties. The second generator brings the dependency along again,
after the alias that needs it. -/
def tripleProperties : List (List AliasedProperty) :=
  let one : AliasedType := ⟨[.triple], "Triple_t"⟩
  let both : AliasedType := ⟨[.triple, .anyItem], "Triple_t | _T"⟩
  [[⟨"Axis", one, both, "", false⟩],
    [⟨"Base", both, one, "", true⟩, ⟨"Direction", one, one, "", true⟩]]

theorem aliases_declared_in_order_triples :
    (∀ t ∈ typesOf tripleProperties, t.IsLine) ∧ Family (Reached tripleProperties) ∧
      (declaredLines (merged .empty tripleProperties)).count TypeAlias.triple.line = 1 ∧
      [TypeAlias.anyItem.line, TypeAlias.triple.line].Sublist
        (declaredLines (merged .empty tripleProperties)) := by
  have hlines : ∀ t ∈ typesOf tripleProperties, t.IsLine := by
    intro t ht
    have hkind : t.type = "Triple_t" ∨ t.type = "Triple_t | _T" := by
      have hall : (typesOf tripleProperties).all fun t =>
        t.type == "Triple_t" || t.type == "Triple_t | _T" := by decide
      simpa using all_eq_true.1 hall t ht
    rcases hkind with h | h
    · exact ⟨by rw [h]; decide, by rw [h]; decide, by rw [h]; decide⟩
    · exact ⟨by rw [h]; decide, by rw [h]; decide, by rw [h]; decide⟩
  have hreached : ∀ a, Reached tripleProperties a → a = .triple ∨ a = .anyItem := by
    intro a ha
    have hmem : a ∈ [TypeAlias.triple, TypeAlias.anyItem] := by
      apply ha.mem_of_closed
      · simp [typesOf, tripleProperties, AliasedProperty.types]
      · simp [TypeAlias.triple, TypeAlias.tupleOf, TypeAlias.anyItem, TypeAlias.dependencies]
    simpa using hmem
  have family : Family (Reached tripleProperties) := by
    refine ⟨?_, ?_, ?_⟩
    · intro a ha
      rcases hreached a ha with rfl | rfl
      · exact ⟨by decide, by decide⟩
      · exact (by decide : '\n' ∉ "_T".toList)
    · intro a ha
      rcases hreached a ha with rfl | rfl <;> decide
    · intro a b ha hb hsame
      rcases hreached a ha with rfl | rfl <;> rcases hreached b hb with rfl | rfl
      · exact fun d hd => ⟨d, hd, rfl⟩
      · exact absurd hsame (by decide +kernel)
      · exact absurd hsame (by decide +kernel)
      · exact fun d hd => ⟨d, hd, rfl⟩
  have htriple : Reached tripleProperties .triple :=
    ⟨⟨[.triple], "Triple_t"⟩, mem_cons_self, .triple, mem_cons_self, .refl⟩
  obtain ⟨-, -, hcount, horder⟩ :=
    (aliases_declared_in_order .empty tripleProperties hlines family).2 .triple htriple
  exact ⟨hlines, family, hcount, horder .anyItem (.single mem_cons_self)⟩

/-- Lines alone do not tell every family of aliases apart. Of two aliases with one line only the
first is declared, though the second depends on an alias that comes after it, and an alias whose
name begins like an import line is printed among the imports. -/
theorem aliases_not_always_in_order :
    let shared : TypeAlias := .named "Y" "str" []
    let early : TypeAlias := .named "X" "int" []
    let late : TypeAlias := .named "X" "int" [shared]
    let twice := [[⟨"p", ⟨[early], "X"⟩, ⟨[late], "X"⟩, "", false⟩]]
    let base : TypeAlias := .named "Z" "int" []
    let disguised : TypeAlias := .named "from A" "Z" [base]
    let once := [[⟨"p", ⟨[disguised], "A"⟩, ⟨[], "A"⟩, "", true⟩]]
    (Reached twice late ∧ late.DependsOn shared ∧
        declaredLines (merged .empty twice) = [late.line, shared.line]) ∧
      Reached once disguised ∧ disguised.DependsOn base ∧
        declaredLines (merged .empty once) = [base.line] := by
  intro shared early late twice base disguised once
  refine ⟨⟨⟨⟨[late], "X"⟩, ?_, late, mem_cons_self, .refl⟩, .single mem_cons_self, ?_⟩,
    ⟨⟨[disguised], "A"⟩, mem_cons_self, disguised, mem_cons_self, .refl⟩,
    .single mem_cons_self, ?_⟩
  · exact mem_cons_of_mem _ mem_cons_self
  · decide +kernel
  · decide +kernel

end Property
end BindingStubs
