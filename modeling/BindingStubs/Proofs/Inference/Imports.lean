import BindingStubs.Proofs.Inference.Answers
import BindingStubs.Proofs.Steps
import BindingStubs.Proofs.TypeExpr.Modules

set_option autoImplicit false

/-! # Imports of inferred types -/

namespace BindingStubs.Inference

open Gen List TypeExpr ClassReference
open Property (modulesIn)
open Pattern (Match Regex)

/-- A text mentions a module that it does not import when it is printed. -/
def Omits (text M : String) : Prop := M ∈ modulesIn (printText text).1 ∧ M ∉ (printText text).2

/-- A shape whose type is written down as one text, with all the types in it. -/
def Shape.isWhole : Shape → Bool
  | .packedTuple | .listLike _ | .sceneNode | .widget | .instanceOf _ | .builtValue | .className =>
    true
  | _ => false

/-- The ways in which a module of a type can stay without an import. -/
inductive Hides (project : Project) (c : Code) (M : String) : Prop
  /-- An expression of the body is answered by a text as a whole. -/
  | whole {depth stop : Nat} {literal : Bool} {expression text : String} {s t : Session}
      (hexpression : c.Mentions expression)
      (hshape : (shape literal (bareExpression expression)).isWhole = true)
      (hrun : (typeWithin depth c expression stop literal).run project s = (.ok (.text text), t))
      (homits : Omits text M) (hnot : M ∉ t.imports.toList)
  /-- The name of the class is no plain name. -/
  | owner {name : String} (howner : c.owner = some name) (homits : Omits name M)
  /-- The name of the function is no plain name, and the function returns fixed keys. -/
  | record {name : String} (hname : TypeExpr.Record.upperFirst c.function = .ok name)
      (homits : Omits ("Return" ++ name ++ "Dict") M)
  /-- A tuple has one item, of which nothing is known. -/
  | lone {depth declared start stop : Nat} {name : String} {varies : Bool}
      {source : Gen (List TypeExpr × Bool)} (hname : c.Mentions name)
      (hsource : source ∈ tupleSources (typeWithin depth c) c name declared start stop)
      (hitems : Gives project source ([.any], varies)) (htyping : M = "typing")
  /-- A tuple of fixed length has an item with alternatives. -/
  | alternatives {depth declared start stop : Nat} {name : String} {items inner : List TypeExpr}
      {learned : NameSet} {source : Gen (List TypeExpr × Bool)} (hname : c.Mentions name)
      (hsource : source ∈ tupleSources (typeWithin depth c) c name declared start stop)
      (hitems : Gives project source (items, false)) (hunion : .union inner learned ∈ items)
      (hmodule : M ∈ modulesIn (union inner learned).shown)

def Known (project : Project) (c : Code) (t : Session) (M : String) : Prop :=
  M ∈ t.imports.toList ∨ Hides project c M

/-- A type that accounts for its modules and has learned nothing so far. -/
def Answered (project : Project) (c : Code) (type : TypeExpr) (t : Session) : Prop :=
  Sound (Known project c t) type ∧ type.learned = OrderedSet.empty

def AsksSoundly (project : Project) (c : Code) (ask : Ask) : Prop :=
  ∀ ⦃expression : String⦄ ⦃stop : Nat⦄ (literal : Bool) (s : Session), c.Mentions expression →
    stop ≤ c.body.length → Adds project s (ask expression stop literal) (Answered project c)

section

variable {project : Project} {c : Code} {ask : Ask} {s t : Session} {stop : Nat}

theorem Known.mono (h : Extends s t) (M : String) (hM : Known project c s M) :
    Known project c t M :=
  hM.imp_left fun hmem => h hmem

variable {type : TypeExpr}

theorem Answered.mono (h : Answered project c type s) (hext : Extends s t) :
    Answered project c type t :=
  ⟨h.1.mono (Known.mono hext), h.2⟩

variable {text : String}

theorem Answered.of_text (h : Accounted (Known project c t) text) :
    Answered project c (.text text) t := ⟨h, rfl⟩

theorem answered_any : Answered project c .any t := ⟨trivial, rfl⟩

variable {known : String → Prop}

theorem accounted_of_modulesIn (h : modulesIn text = []) : Accounted known text := by
  apply Covered.accounted
  intro M hM
  rw [h] at hM
  cases hM

theorem accounted_of_omits (h : ∀ M, Omits text M → known M) : Accounted known text := by
  intro M hM
  by_cases hneeded : M ∈ (printText text).2
  · exact .inr hneeded
  · exact .inl (h M ⟨hM, hneeded⟩)

theorem answered_unionOfTexts {texts : List String}
    (h : ∀ text ∈ texts, Accounted (Known project c t) text) :
    SoundUnion (Known project c t) (unionOfTexts texts) ∧
      (unionOfTexts texts).learned = OrderedSet.empty := by
  rw [unionOfTexts_eq]
  refine ⟨⟨texts.eraseDups, _, rfl, fun text htext => ?_⟩, rfl⟩
  exact (h text (mem_eraseDups.1 htext)).mono fun _ hM => .inl hM

theorem Answered.printed (h : Answered project c type t) :
    ∀ text ∈ type.printed, Accounted (Known project c t) text := by
  obtain ⟨hsound, hlearned⟩ := h
  cases type with
  | any => exact forall_mem_singleton.2 accounted_anyText
  | text own => exact forall_mem_singleton.2 hsound
  | union items learned =>
    obtain ⟨texts, learned', heq, htexts⟩ := hsound
    obtain ⟨rfl, rfl⟩ := union.inj heq
    obtain rfl : learned = OrderedSet.empty := hlearned
    intro text htext
    rw [printed, walk_texts] at htext
    obtain ⟨own, hown, rfl⟩ := mem_map.1 htext
    refine Accounted.printText ((htexts own hown).mono fun M hM => ?_)
    rcases hM with hM | hM
    · exact hM
    · cases hM

theorem Answered.contributions (h : Answered project c type t) :
    ∀ text ∈ contributions type, Accounted (Known project c t) text := by
  cases type with
  | any => exact forall_mem_nil _
  | text own => exact h.printed
  | union items learned => exact h.printed

theorem adds_captured (m : Match) (index : Nat) :
    Adds project s (captured m index) fun _ _ => True := by
  rw [captured]
  split
  · exact .pure trivial
  · exact .throw _

theorem adds_piece (pieces : List String) (index : Nat) :
    Adds project s (piece pieces index) fun _ _ => True := by
  rw [piece]
  split
  · exact .pure trivial
  · exact .throw _

theorem adds_read : Adds project s (read : Gen Project) fun _ _ => True :=
  ⟨Extends.refl s, fun _ _ => trivial⟩

theorem adds_description? (stem namespace_ : String) :
    Adds project s (description? stem namespace_) fun _ _ => True := by
  refine adds_read.bind fun project t _ _ _ => ?_
  dsimp only
  split
  · exact .pure trivial
  · exact .pure trivial
  · split
    · exact .pure trivial
    · exact (Adds.report _ _ _).bind fun _ _ _ _ _ => .pure trivial

theorem adds_attributeOf (e : Xml.Element) (name : String) :
    Adds project s (attributeOf e name) fun _ _ => True := by
  rw [attributeOf]
  split
  · exact .pure trivial
  · exact .throw _

theorem adds_ofElement (e : Xml.Element) :
    Adds project s (ofElement e) fun _ _ => True := by
  rw [ofElement]
  dsimp only
  split
  · split
    · exact .throw _
    · exact .pure trivial
    · exact .pure trivial
  · refine (adds_attributeOf e _).bind fun _ _ _ _ _ => adds_read.bind fun _ _ _ _ _ => ?_
    exact (adds_attributeOf e _).bind fun _ _ _ _ _ => .pure trivial

theorem adds_ofCppType (written : String) :
    Adds project s (ofCppType written) fun _ _ => True := by
  refine (Adds.demand _).bind fun cut _ _ _ _ => (adds_description? _ _).bind fun found _ _ _ _ => ?_
  cases found with
  | none => exact .pure trivial
  | some p =>
    have hdescription : ∀ u, Adds project u (readDescription p) fun _ _ => True :=
      fun u => adds_read.bind fun _ _ _ _ _ => (Adds.demand _).bind fun _ _ _ _ _ => .demand _
    refine (hdescription _).bind fun root _ _ _ _ => ?_
    split
    · split
      · exact .throw _
      · exact adds_ofElement _
    · exact .throw _

def Spoken (project : Project) (c : Code) (type : TypeExpr) (t : Session) : Prop :=
  (∃ text, type = .text text) ∨ Answered project c type t

theorem adds_instanceType (text differsFrom : String) :
    Adds project s (instanceType c text differsFrom) (Spoken project c) := by
  refine (adds_ofCppType _).bind fun full t _ _ _ => ?_
  cases c.owner with
  | none => exact .throw _
  | some owner =>
    dsimp only
    have hgeometry : ∀ text ∈ ["Mesh.MeshObject", "Part.Shape", "Points.PointKernel"],
        ∀ M ∈ modulesIn (printText text).1, M ∈ (printText text).2 := by decide
    split_ifs
    · exact .pure (.inl ⟨_, rfl⟩)
    · have htexts : ∀ text ∈ ["Mesh.MeshObject", "Part.Shape", "Points.PointKernel"],
          Accounted (Known project c t) text :=
        fun text htext M hM => .inr (hgeometry text htext M hM)
      have hunion := answered_unionOfTexts htexts
      exact .pure (.inr ⟨hunion.1.sound, hunion.2⟩)
    · exact .pure (.inr answered_any)
    · split
      · exact .pure (.inr answered_any)
      · split_ifs
        · exact .pure (.inr answered_any)
        · exact (Adds.need _).bind fun _ _ _ _ _ => .pure (.inl ⟨_, rfl⟩)

theorem adds_sceneNodeType (text : String) :
    Adds project s (sceneNodeType text) (Spoken project c) := by
  refine (Adds.demand _).bind fun arguments _ _ _ _ => (adds_piece _ _).bind fun moduleName _ _ _ _ =>
    (adds_piece _ _).bind fun name _ _ _ _ => ?_
  dsimp only
  split_ifs
  · exact .pure (.inr answered_any)
  · exact .pure (.inl ⟨_, rfl⟩)

theorem adds_widgetType (text : String) :
    Adds project s (widgetType text) (Spoken project c) := by
  refine (Adds.demand _).bind fun arguments _ _ _ _ => ?_
  split
  · exact .pure (.inl ⟨_, rfl⟩)
  · exact .pure (.inl ⟨_, rfl⟩)
  · exact .throw _

section
variable (h : AsksSoundly project c ask) (hstop : stop ≤ c.body.length)
include h hstop

theorem AsksSoundly.builtType (htext : c.Mentions text) :
    Adds project s (builtType ask text stop) (Spoken project c) := by
  refine (Adds.demand _).bind fun arguments _ harguments _ _ => adds_read.bind fun _ _ _ _ _ => ?_
  refine (adds_piece _ _).bind fun format _ _ _ _ => (Adds.demand _).bind fun type _ _ _ _ => ?_
  split
  · exact .pure (.inl ⟨_, rfl⟩)
  · refine (adds_piece _ _).bind fun value u hvalue _ _ => ?_
    refine (h true u ?_ hstop).imp fun _ _ _ htype => .inr htype
    exact htext.within
      (Source.within_of_callArguments harguments.of_demand (mem_of_gives_piece hvalue)).trim

theorem AsksSoundly.shownTypes {texts : List String} (htexts : ∀ text ∈ texts, c.Mentions text) :
    Adds project s (shownTypes ask stop texts) fun _ _ => True := by
  induction texts generalizing s with
  | nil => exact .pure trivial
  | cons text texts ih =>
    refine (h false s (htexts text mem_cons_self) hstop).bind fun found u _ _ _ => ?_
    exact (ih fun text htext => htexts text (mem_cons_of_mem _ htext)).bind
      fun _ _ _ _ _ => .pure trivial

theorem AsksSoundly.packedType (htext : c.Mentions text) :
    Adds project s (packedType ask text stop) (Spoken project c) := by
  refine (Adds.demand _).bind fun arguments _ harguments _ _ => ?_
  refine (h.shownTypes hstop fun argument hargument => ?_).bind
    fun _ _ _ _ _ => .pure (.inl ⟨_, rfl⟩)
  exact htext.within
    (Source.within_of_callArguments harguments.of_demand (mem_of_mem_drop hargument))

theorem AsksSoundly.firstArgumentType (htext : c.Mentions text) :
    Adds project s (firstArgumentType ask text stop) (Answered project c) := by
  refine (Adds.demand _).bind fun arguments u harguments _ _ => ?_
  split
  · exact .throw _
  · exact h false u (htext.within
      (Source.within_of_callArguments harguments.of_demand mem_cons_self)) hstop

theorem AsksSoundly.captured {m : Match} (hm : m.Of c.body) (index : Nat) :
    Adds project s (do ask (← captured m index) stop false) (Answered project c) :=
  (adds_captured m index).bind fun _ u hs _ _ =>
    h false u (mentions_of_gives_captured hm hs) hstop

section
variable {α : Type} {then_ : TypeExpr → Gen α} {holds : α → Session → Prop}
  (hthen : ∀ type t, Extends s t → Answered project c type t → Adds project t (then_ type) holds)
include hthen

theorem AsksSoundly.captured_bind {m : Match} (hm : m.Of c.body) (index : Nat) :
    Adds project s (Inference.captured m index >>= fun text => ask text stop false >>= then_)
      holds :=
  (adds_captured m index).bind fun _ u hs hext _ =>
    (h false u (mentions_of_gives_captured hm hs) hstop).bind fun type t _ hext' htype =>
      hthen type t (hext.trans hext') htype

theorem AsksSoundly.piece_bind (htext : c.Mentions text) (index : Nat) :
    Adds project s
      (piece (Source.commaPieces text) index >>= fun value => ask value stop false >>= then_) holds :=
  (adds_piece _ index).bind fun _ u hs hext _ =>
    (h false u (mentions_of_gives_piece htext hs) hstop).bind fun type t _ hext' htype =>
      hthen type t (hext.trans hext') htype

end

variable {ms : List Match}

theorem AsksSoundly.caughtTypes (hms : ∀ m ∈ ms, m.Of c.body) :
    Adds project s (caughtTypes ask stop ms) fun texts t =>
      ∀ text ∈ texts, Accounted (Known project c t) text := by
  induction ms generalizing s with
  | nil => exact .pure (forall_mem_nil _)
  | cons m ms ih =>
    refine (h.captured hstop (hms m mem_cons_self) 1).element.bind fun found u _ _ hfound => ?_
    refine (ih fun m hm => hms m (mem_cons_of_mem _ hm)).bind fun rest v _ hext hrest => ?_
    refine .pure (forall_mem_append.2 ⟨fun text htext => ?_, hrest⟩)
    exact (hfound.contributions text htext).mono (Known.mono hext)

theorem AsksSoundly.appendedTypes (name : String) (start : Nat) :
    Adds project s (appendedTypes ask c name start stop) fun type t =>
      SoundUnion (Known project c t) type := by
  refine (Adds.demand _).bind fun r _ _ _ _ => ?_
  refine (h.caughtTypes hstop fun m hm => Regex.of_mem_matchesIn hm).bind
    fun texts _ _ _ htexts => ?_
  exact .pure (answered_unionOfTexts htexts).1

theorem AsksSoundly.setListTypes (hms : ∀ m ∈ ms, m.Of c.body) {found : TypeExpr}
    (hfound : SoundUnion (Known project c s) found) :
    Adds project s (setListTypes ask stop found ms) fun type t =>
      SoundUnion (Known project c t) type := by
  induction ms generalizing s found with
  | nil => exact .pure hfound
  | cons m ms ih =>
    refine h.captured_bind hstop (fun type u hext htype => ?_) (hms m mem_cons_self) 1
    have hadded : SoundUnion (Known project c u) (found.add type) :=
      (hfound.mono (Known.mono hext)).add htype.1
    have hrest := ih (fun m hm => hms m (mem_cons_of_mem _ hm)) hadded
    split_ifs
    · exact (Adds.throw _).bind fun _ _ _ _ (hfalse : False) => hfalse.elim
    · exact hrest

omit h hstop in
theorem covered_list {shown : String} (h : Covered known shown) :
    Covered known ("list[" ++ shown ++ "]") := by
  have hname : modulesIn "list" = [] := by decide
  have htext : "list[" ++ shown ++ "]" = "list" ++ "[" ++ shown ++ "]" := rfl
  intro M hM
  rw [htext, Property.modulesIn_bracketed, hname, nil_append] at hM
  exact h M hM

theorem AsksSoundly.listType (name : String) (start : Nat) :
    Adds project s (listType ask c name start stop) (Answered project c) := by
  refine (h.appendedTypes hstop name start).bind fun appended u _ _ happended => ?_
  have hshown : ∀ (v : Session) (items : TypeExpr), SoundUnion (Known project c v) items →
      Adds project v (if items.alternatives.isEmpty then pure (text "list")
        else do
          needAll items.print.2.learned.toList
          return text ("list[" ++ items.print.1 ++ "]")) (Answered project c) := by
    intro v items hitems
    split_ifs
    · exact .pure (.of_text (accounted_of_modulesIn (by decide)))
    · refine (Adds.needAll _).bind fun _ w _ hext hneeded => ?_
      have hcovered := hitems.print.2
      refine .pure (.of_text (Covered.accounted (covered_list (hcovered.mono fun M hM => ?_))))
      rcases hM with hM | hM
      · exact Known.mono hext M hM
      · exact .inl (hneeded hM)
  dsimp only
  split_ifs
  · refine (Adds.demand _).bind fun r _ _ _ _ => ?_
    refine (h.setListTypes hstop (fun m hm => Regex.of_mem_matchesIn hm)
      soundUnion_empty).bind fun items v _ _ hitems => ?_
    exact hshown v items hitems
  · exact (Adds.pure happended).bind fun items v _ _ hitems => hshown v items hitems

def AnsweredItems (project : Project) (c : Code) (found : List TypeExpr × Bool) (t : Session) :
    Prop :=
  ∀ item ∈ found.1, Answered project c item t

theorem AsksSoundly.typesOf {texts : List String} (htexts : ∀ text ∈ texts, c.Mentions text) :
    Adds project s (typesOf ask stop texts) fun items t =>
      ∀ item ∈ items, Answered project c item t := by
  induction texts generalizing s with
  | nil => exact .pure (forall_mem_nil _)
  | cons text texts ih =>
    refine (h false s (htexts text mem_cons_self) hstop).element.bind fun found u _ _ hfound => ?_
    refine (ih fun text htext => htexts text (mem_cons_of_mem _ htext)).bind
      fun rest v _ hext hrest => ?_
    exact .pure (forall_mem_cons.2 ⟨hfound.mono hext, hrest⟩)

theorem AsksSoundly.constructedItems (r : Regex) (start : Nat) :
    Adds project s (constructedItems ask c r start stop) (AnsweredItems project c) := by
  rw [Inference.constructedItems]
  split
  · exact .pure (forall_mem_nil _)
  · next m hm =>
    refine (adds_captured m 1).bind fun written _ hwritten _ _ => ?_
    have hmentions := mentions_of_gives_captured (Regex.of_searchIn hm) hwritten
    refine (h.typesOf hstop fun text htext => ?_).bind fun _ _ _ _ hitems => .pure hitems
    exact hmentions.within (Source.within_of_mem_commaPieces htext)

def ReadsQuietly (project : Project) (read : Match → Gen (String × Gen String)) : Prop :=
  ∀ m s, Adds project s (read m) fun item _ => ∀ u, Adds project u item.2 fun _ _ => True

omit h hstop in
theorem readsQuietly_byCall (project : Project) : ReadsQuietly project byCall :=
  fun m _ => (adds_captured m 1).bind fun _ _ _ _ _ => .pure fun _ => adds_piece _ _

omit h hstop in
theorem readsQuietly_byNames (project : Project) (r : Regex) :
    ReadsQuietly project (byNames r) := by
  intro m s
  rw [byNames]
  split
  · exact .pure fun _ => .pure trivial
  · exact .throw _

theorem AsksSoundly.setItems {read : Match → Gen (String × Gen String)}
    (hread : ReadsWithin project c read) (hquiet : ReadsQuietly project read)
    (hms : ∀ m ∈ ms, m.Of c.body) :
    Adds project s (setItems ask stop read ms) (AnsweredItems project c) := by
  induction ms generalizing s with
  | nil => exact .pure (forall_mem_nil _)
  | cons m ms ih =>
    refine (hquiet m s).bind fun item u hitem _ hvalueQuiet => ?_
    obtain ⟨-, hmentions⟩ := hread.value m item (hms m mem_cons_self) hitem
    have hvalue : Adds project u (do ask (← item.2) stop false) (Answered project c) :=
      (hvalueQuiet u).bind fun text v htext _ _ => h false v (hmentions text htext) hstop
    refine hvalue.element.bind fun found v _ _ hfound => ?_
    refine (ih fun m hm => hms m (mem_cons_of_mem _ hm)).bind fun rest w _ hext hrest => ?_
    exact .pure (forall_mem_cons.2 ⟨hfound.mono hext, hrest⟩)

theorem AsksSoundly.tupleSources {start : Nat} (hstart : start ≤ c.body.length) (name : String)
    (declared : Nat) :
    ∀ source ∈ tupleSources ask c name declared start stop, ∀ s,
      Adds project s source (AnsweredItems project c) := by
  have hset : ∀ (r : Regex) {read} (u : Session), ReadsWithin project c read →
      ReadsQuietly project read →
      Adds project u (Inference.setItems ask stop read (c.matches r start stop))
        (AnsweredItems project c) := fun r _ u hread hquiet =>
    h.setItems hstop hread hquiet fun m hm => Regex.of_mem_matchesIn hm
  simp only [Inference.tupleSources, forall_mem_cons]
  refine ⟨fun s => ?_, fun s => ?_, fun s => ?_, fun s => ?_, fun s => ?_, forall_mem_nil _⟩
  · exact (Adds.demand _).bind fun r _ _ _ _ => h.constructedItems hstart r declared
  · exact (Adds.demand _).bind fun r u _ _ _ =>
      hset r u (readsWithin_byCall project c) (readsQuietly_byCall project)
  · exact (Adds.demand _).bind fun r u _ _ _ =>
      hset r u (readsWithin_byNames project c r) (readsQuietly_byNames project r)
  · exact (Adds.demand _).bind fun r u _ _ _ =>
      hset r u (readsWithin_byNames project c r) (readsQuietly_byNames project r)
  · exact (Adds.demand _).bind fun r _ _ _ _ => h.constructedItems hstop r declared

omit h hstop in
theorem adds_firstTuple {depth declared start : Nat} {name : String} (hname : c.Mentions name)
    {sources : List (Gen (List TypeExpr × Bool))}
    (hsources : sources ⊆ Inference.tupleSources (typeWithin depth c) c name declared start stop)
    (hadds : ∀ source ∈ sources, ∀ s, Adds project s source (AnsweredItems project c)) :
    Adds project s (firstTuple sources) (Answered project c) := by
  induction sources generalizing s with
  | nil => exact .throw _
  | cons source sources ih =>
    obtain ⟨hsource, hrest⟩ := cons_subset.1 hsources
    refine (hadds source mem_cons_self s).bind fun found u hgives _ hfound => ?_
    obtain ⟨items, varies⟩ := found
    dsimp only
    split_ifs
    · exact ih hrest fun source hmem => hadds source (mem_cons_of_mem _ hmem)
    · refine (Adds.needAll _).bind fun _ v _ hext hneeded => .pure (.of_text ?_)
      have hsound : ∀ item ∈ items, Sound (Known project c v) item :=
        fun item hitem => (hfound item hitem).1.mono (Known.mono hext)
      apply Covered.accounted
      intro M hM
      rcases mem_imports_tuple hsound hM with (hknown | hfound) | ⟨rfl, htyping⟩ |
          ⟨rfl, inner, learned, hunion, hshown, -⟩
      · exact hknown
      · exact .inl (hneeded hfound)
      · exact .inr (.lone hname hsource hgives htyping)
      · exact .inr (.alternatives hname hsource hgives hunion hshown)

structure SoundItems (project : Project) (c : Code) (found : DictItems) (t : Session) : Prop where
  function : found.fixed.function = c.function
  keys : SoundUnion (Known project c t) found.others.keys
  values : SoundUnion (Known project c t) found.others.values

variable {found : DictItems}

omit h hstop in
theorem SoundItems.mono (h : SoundItems project c found s) (hext : Extends s t) :
    SoundItems project c found t :=
  ⟨h.function, h.keys.mono (Known.mono hext), h.values.mono (Known.mono hext)⟩

omit h hstop in
theorem SoundItems.add_others (h : SoundItems project c found t) {key value : TypeExpr}
    (hkey : Sound (Known project c t) key) (hvalue : Sound (Known project c t) value) :
    SoundItems project c { found with others := found.others.add key value } t :=
  ⟨h.function, h.keys.add hkey, h.values.add hvalue⟩

omit h hstop in
theorem SoundItems.add_fixed (h : SoundItems project c found t) (key : String) (value : TypeExpr) :
    SoundItems project c { found with fixed := found.fixed.add key value } t := by
  refine ⟨?_, h.keys, h.values⟩
  rw [TypeExpr.Record.add]
  split <;> exact h.function

def AddsItems (project : Project) (c : Code) (step : DictItems → Match → Gen DictItems) :
    Prop :=
  ∀ ⦃found m s⦄, m.Of c.body → SoundItems project c found s →
    Adds project s (step found m) (SoundItems project c)

theorem AsksSoundly.setStringItem : AddsItems project c (setStringItem ask stop) := by
  intro found m s hm hfound
  refine (adds_captured m 1).bind fun written _ hwritten hext₁ _ => ?_
  refine h.piece_bind hstop (fun type u hext₂ htype => .pure ?_)
    (mentions_of_gives_captured hm hwritten) 2
  have hkey : Sound (Known project c u) (.text "str") := accounted_of_modulesIn (by decide)
  exact (hfound.mono (hext₁.trans hext₂)).add_others hkey htype.1

theorem AsksSoundly.setItem : AddsItems project c (setItem ask stop) := by
  intro found m s hm hfound
  refine (adds_captured m 1).bind fun written _ hwritten hext₁ _ => ?_
  have hmentions := mentions_of_gives_captured hm hwritten
  refine h.piece_bind hstop (fun keyType u hext₂ hkeyType => ?_) hmentions 1
  refine h.piece_bind hstop (fun type v hext₃ htype => .pure ?_) hmentions 2
  exact (hfound.mono ((hext₁.trans hext₂).trans hext₃)).add_others (hkeyType.mono hext₃).1 htype.1

theorem AsksSoundly.setMember : AddsItems project c (setMember ask stop) := by
  intro found m s hm hfound
  refine (adds_captured m 1).bind fun written _ hwritten hext₁ _ => ?_
  have hmentions := mentions_of_gives_captured hm hwritten
  refine h.piece_bind hstop (fun type u hext₂ htype => ?_) hmentions 1
  have hfound' := hfound.mono (hext₁.trans hext₂)
  dsimp only
  split_ifs
  · exact .pure (hfound'.add_fixed _ _)
  · refine (h false u (c.mentions_headD_commaPieces hmentions) hstop).bind
      fun keyType v _ hext₃ hkeyType => .pure ?_
    exact (hfound'.mono hext₃).add_others hkeyType.1 (htype.mono hext₃).1

theorem AsksSoundly.assignMember : AddsItems project c (assignMember ask stop) := by
  intro found m s hm hfound
  refine (adds_captured m 1).bind fun key _ _ hext₁ _ => ?_
  refine h.captured_bind hstop (fun type u hext₂ _ => .pure ?_) hm 2
  exact (hfound.mono (hext₁.trans hext₂)).add_fixed _ _

theorem AsksSoundly.assignItem : AddsItems project c (assignItem ask stop) := by
  intro found m s hm hfound
  refine h.captured_bind hstop (fun keyType u hext₁ hkeyType => ?_) hm 1
  refine h.captured_bind hstop (fun type v hext₂ htype => .pure ?_) hm 2
  exact (hfound.mono (hext₁.trans hext₂)).add_others (hkeyType.mono hext₂).1 htype.1

omit h hstop in
theorem adds_mapItems {step : DictItems → Match → Gen DictItems}
    (hstep : AddsItems project c step) (hms : ∀ m ∈ ms, m.Of c.body)
    (hfound : SoundItems project c found s) :
    Adds project s (mapItems step found ms) (SoundItems project c) := by
  induction ms generalizing s found with
  | nil => exact .pure hfound
  | cons m ms ih =>
    refine (hstep (hms m mem_cons_self) hfound).bind fun found u _ _ hfound => ?_
    exact ih (fun m hm => hms m (mem_cons_of_mem _ hm)) hfound

omit h hstop in
theorem adds_dictText (hfound : SoundItems project c found s) :
    Adds project s (dictText found) fun type t => ∀ shown ∈ type, Answered project c shown t := by
  rw [dictText]
  split_ifs
  · exact .pure fun _ hshown => by cases hshown
  · refine (Adds.needAll _).bind fun _ u _ hext hneeded => .pure fun shown hshown => ?_
    cases hshown
    refine .of_text (Covered.accounted fun M hM => ?_)
    have hknown := TypeExpr.Mapping.covered_print hfound.keys hfound.values M hM
    rcases hknown with hknown | hlearned
    · exact Known.mono hext M hknown
    · exact .inl (hneeded hlearned)
  · refine (Adds.demand _).bind fun record u hrecord _ _ => ?_
    refine (Adds.needAll _).bind fun _ v _ _ _ => .pure fun shown hshown => ?_
    cases hshown
    refine .of_text (accounted_of_omits fun M hM => .inr ?_)
    have hprint := hrecord.of_demand
    rw [TypeExpr.Record.print] at hprint
    obtain ⟨name, hname, hprint⟩ := Fault.bind_eq_ok.1 hprint
    rw [hfound.function] at hname
    cases hprint
    exact .record hname hM
  · exact .throw _

omit h hstop in
theorem adds_firstDict {start : Nat}
    {sources : List (String × (DictItems → Match → Gen DictItems))}
    (hsources : ∀ source ∈ sources, AddsItems project c source.2) :
    Adds project s (firstDict c start stop sources) (Answered project c) := by
  induction sources generalizing s with
  | nil =>
    rw [firstDict]
    split_ifs
    · exact .pure (.of_text (accounted_of_modulesIn (by decide)))
    · exact .throw _
  | cons source sources ih =>
    obtain ⟨written, step⟩ := source
    refine (Adds.demand _).bind fun r u _ _ _ => ?_
    have hempty : SoundItems project c { fixed := { function := c.function } } u :=
      ⟨rfl, soundUnion_empty, soundUnion_empty⟩
    have hstep := hsources (written, step) mem_cons_self
    refine (adds_mapItems hstep (fun m hm => Regex.of_mem_matchesIn hm) hempty).bind
      fun found v _ _ hfound => ?_
    refine (adds_dictText hfound).bind fun type w _ _ htype => ?_
    cases type with
    | some type => exact .pure (htype type rfl)
    | none => exact ih fun source hmem => hsources source (mem_cons_of_mem _ hmem)

theorem AsksSoundly.dictType (name : String) (start : Nat) :
    Adds project s (dictType ask c name start stop) (Answered project c) := by
  apply adds_firstDict
  simp only [dictSources, forall_mem_cons]
  exact ⟨h.setStringItem hstop, h.setItem hstop, h.setMember hstop, h.assignMember hstop,
    h.assignItem hstop, forall_mem_nil _⟩

end

variable {depth : Nat}

theorem AsksSoundly.tupleType (h : AsksSoundly project c (typeWithin depth c)) {start : Nat}
    (hstart : start ≤ c.body.length) (hstop : stop ≤ c.body.length) {name : String}
    (hname : c.Mentions name) (declared : Nat) :
    Adds project s (tupleType (typeWithin depth c) c name declared start stop)
      (Answered project c) :=
  adds_firstTuple hname (List.Subset.refl _) (h.tupleSources hstop hstart name declared)

theorem AsksSoundly.withItems (h : AsksSoundly project c (typeWithin depth c)) {start : Nat}
    (hstart : start ≤ c.body.length) (hstop : stop ≤ c.body.length) {name : String}
    (hname : c.Mentions name) (declared : Nat) {type : String}
    (htype : Answered project c (.text type) s) :
    Adds project s (withItems (typeWithin depth c) c type name declared start stop)
      (Answered project c) := by
  unfold Inference.withItems
  split
  · exact h.listType hstop name start
  · exact h.tupleType hstart hstop hname declared
  · exact h.dictType hstop name start
  · exact .pure htype

theorem AsksSoundly.typeOfDeclaration (h : AsksSoundly project c ask)
    (hstop : stop ≤ c.body.length) {d : Declaration} (hd : d.Of c) :
    Adds project s (typeOfDeclaration ask d stop) (Answered project c) := by
  rw [Inference.typeOfDeclaration]
  split_ifs
  · exact h true s hd.value hstop
  · exact h false s (c.mentions_headD_commaPieces hd.arguments) hstop
  · exact .pure answered_any
  · exact h true s hd.type hstop

theorem AsksSoundly.assignedType (h : AsksSoundly project c ask) (hstop : stop ≤ c.body.length)
    (name : String) (start : Nat) :
    Adds project s (assignedType ask c name start stop) (Answered project c) := by
  refine (Adds.demand _).bind fun r _ _ _ _ => ?_
  refine (h.caughtTypes hstop fun m hm => Regex.of_mem_matchesIn hm).bind
    fun texts t _ _ htexts => .pure ?_
  have hunion := answered_unionOfTexts htexts
  split_ifs
  · exact answered_any
  · exact ⟨hunion.1.sound, hunion.2⟩

theorem Answered.orNone (h : Answered project c type t) : Answered project c (orNone type) t := by
  have hnone : Accounted (Known project c t) "None" := accounted_of_modulesIn (by decide)
  cases type with
  | any => exact .of_text hnone
  | text own =>
    have hunion := answered_unionOfTexts (forall_mem_cons.2
      ⟨hnone, forall_mem_singleton.2 h.1⟩)
    exact ⟨hunion.1.sound, hunion.2⟩
  | union items learned =>
    have hadded : SoundUnion (Known project c t) ((union items learned).add (.text "None")) :=
      SoundUnion.add h.1 hnone
    exact ⟨hadded.sound, h.2⟩

theorem adds_lastDeclaration? (name : String) :
    Adds project s (lastDeclaration? c name stop) fun _ _ => True :=
  (Adds.demand _).bind fun _ _ _ _ _ => .pure trivial

theorem accounted_owner {owner : String} (h : c.owner = some owner) :
    Accounted (Known project c t) owner :=
  accounted_of_omits fun _ hM => .inr (.owner h hM)

theorem AsksSoundly.variableType (h : AsksSoundly project c (typeWithin depth c))
    (hstop : stop ≤ c.body.length) {name : String} (hname : c.Mentions name) :
    Adds project s (variableType (typeWithin depth c) c name stop) (Answered project c) := by
  unfold Inference.variableType
  dsimp only
  split_ifs
  · cases howner : c.owner with
    | some owner => exact .pure (.of_text (accounted_owner howner))
    | none => exact (Adds.throw _).bind fun _ _ _ _ (hfalse : False) => hfalse.elim
  · refine (adds_lastDeclaration? name).bind fun found u hfound _ _ => ?_
    cases found with
    | none => exact h true u hname hstop
    | some d =>
      have hd := of_lastDeclaration hfound
      refine (h.typeOfDeclaration hstop hd).bind fun declared v _ _ hdeclared => ?_
      split_ifs
      · exact (h.assignedType hstop name d.stop).bind fun _ _ _ _ htype => .pure htype.orNone
      · refine (h.assignedType hstop name d.stop).bind fun type w _ _ htype => ?_
        cases type with
        | text text => exact h.withItems hd.stop_le hstop hname d.start htype
        | any => exact .pure htype
        | union => exact .pure htype
      · refine (Adds.pure hdeclared).bind fun type w _ _ htype => ?_
        cases type with
        | text text => exact h.withItems hd.stop_le hstop hname d.start htype
        | any => exact .pure htype
        | union => exact .pure htype

def knownTypes : List String := ["object", "None", "FreeCAD.DocumentObject", "str", "bytes", "tuple",
  "bool"] ++ (simpleStarts ++ containerStarts ++ wrapperStarts).filterMap fun rule =>
    match rule.2 with
    | .known type => some type
    | _ => none

def Shape.InKnown (found : Shape) : Prop := ∀ type, found = .known type → type ∈ knownTypes

namespace Shape.InKnown

variable {found other : Shape}

theorem ite {p : Prop} [Decidable p] (h : found.InKnown) (hother : other.InKnown) :
    (if p then found else other).InKnown := by
  split
  · exact h
  · exact hother

theorem table {rules : List (String × Shape)}
    (hrules : rules ⊆ simpleStarts ++ containerStarts ++ wrapperStarts) (hother : other.InKnown) :
    (match shapeByStart? rules text with
      | some found => found
      | none => other).InKnown := by
  split
  · next found hfound =>
    obtain ⟨rule, hrule, rfl⟩ := Option.map_eq_some_iff.1 hfound
    intro type htype
    have hmem := hrules (mem_of_find?_eq_some hrule)
    exact mem_append_right _ (mem_filterMap.2 ⟨rule, hmem, by rw [htype]⟩)
  · exact hother

end Shape.InKnown

theorem inKnown_shape (literal : Bool) (text : String) : (shape literal text).InKnown := by
  have hknown : ∀ type ∈ knownTypes, (Shape.known type).InKnown := by
    rintro type htype _ ⟨⟩
    exact htype
  have hother : ∀ found : Shape, (∀ type, found ≠ .known type) → found.InKnown :=
    fun found hne type heq => absurd heq (hne type)
  have hbool := hknown "bool" (by decide)
  have hrest : (otherShape literal text).InKnown :=
    .ite (hother _ (by simp)) <| .ite (hother _ (by simp)) <| .ite (hother _ (by simp)) <|
      .ite (hother _ (by simp)) <| .ite hbool <| .ite (hother _ (by simp)) <|
      .ite (.ite (hother _ (by simp)) (hother _ (by simp))) <| .ite (hother _ (by simp)) <|
      .ite (hother _ (by simp)) <| .ite hbool (hother _ (by simp))
  exact .ite (hother _ (by simp)) <| .ite (hknown "object" (by decide)) <|
    .ite (hknown "None" (by decide)) <| .ite (.ite (hother _ (by simp)) (hother _ (by simp))) <|
    .ite (hother _ (by simp)) <| .ite (hother _ (by simp)) <| .ite (hother _ (by simp)) <|
    .ite (hknown "FreeCAD.DocumentObject" (by decide)) <| .table (by simp) <|
    .ite (hknown "str" (by decide)) <| .ite (hknown "bytes" (by decide)) <|
    .ite (.ite (hknown "tuple" (by decide)) (hother _ (by simp))) <| .table (by simp) <|
    .ite (hother _ (by simp)) <| .table (by simp) hrest

theorem accounted_known {type : String} (h : type ∈ knownTypes) : Accounted known type := by
  have htypes : ∀ type ∈ knownTypes, ∀ M ∈ modulesIn (printText type).1, M ∈ (printText type).2 := by
    decide +kernel
  exact fun M hM => .inr (htypes type h M hM)

theorem adds_whole {expression : String} {literal : Bool} (hexpression : c.Mentions expression)
    (hshape : (shape literal (bareExpression expression)).isWhole = true)
    (h : Adds project s (typeWithin depth c expression stop literal) (Spoken project c)) :
    Adds project s (typeWithin depth c expression stop literal) (Answered project c) := by
  refine ⟨h.1, fun type htype => ?_⟩
  rcases h.2 type htype with ⟨text, rfl⟩ | hanswered
  · refine .of_text (accounted_of_omits fun M hM => ?_)
    by_cases hmem : M ∈ ((typeWithin depth c expression stop literal).run project s).2.imports.toList
    · exact .inl hmem
    · exact .inr (.whole hexpression hshape (Prod.ext htype rfl) hM hmem)
  · exact hanswered

theorem AsksSoundly.step (h : AsksSoundly project c (typeWithin depth c)) :
    AsksSoundly project c (typeWithin (depth + 1) c) := by
  intro expression stop literal s hexpression hstop
  have hs : c.Mentions (bareExpression expression) :=
    hexpression.within (within_bareExpression expression)
  have hmentions : ∀ text ∈ (shape literal (bareExpression expression)).asked?, c.Mentions text := by
    intro text htext
    rcases asksWithin_shape literal (bareExpression expression) text htext with rfl | hwithin
    · exact .inr (.refl _)
    · exact hs.within hwithin
  have hwhole : (shape literal (bareExpression expression)).isWhole = true →
      Adds project s (typeWithin (depth + 1) c expression stop literal) (Spoken project c) →
      Adds project s (typeWithin (depth + 1) c expression stop literal) (Answered project c) :=
    adds_whole hexpression
  have hrun : typeWithin (depth + 1) c expression stop literal =
      Inference.step (typeWithin depth c) c expression stop literal := rfl
  rw [hrun] at hwhole ⊢
  unfold Inference.step at hwhole ⊢
  dsimp only at hwhole ⊢
  cases hshape : shape literal (bareExpression expression) with
  | anything => exact .pure answered_any
  | null => exact .throw _
  | known type =>
    exact .pure (.of_text (accounted_known (inKnown_shape literal _ type hshape)))
  | owner =>
    refine .pure (.of_text ?_)
    cases howner : c.owner with
    | some owner => exact accounted_owner howner
    | none => exact accounted_of_modulesIn (by decide)
  | like other =>
    rw [hshape] at hmentions
    exact h false s (hmentions other rfl) hstop
  | tupleOfArguments => exact h.tupleType hstop hstop hs 0
  | firstArgument => exact h.firstArgumentType hstop hs
  | variableName => exact h.variableType hstop hs
  | unrecognised => exact (Adds.report _ _ _).bind fun _ _ _ _ _ => .pure answered_any
  | packedTuple =>
    rw [hshape] at hwhole
    exact hwhole rfl (h.packedType hstop hs)
  | listLike other =>
    rw [hshape] at hwhole hmentions
    refine hwhole rfl ((h false s (hmentions other rfl) hstop).bind fun _ _ _ _ _ => ?_)
    exact .pure (.inl ⟨_, rfl⟩)
  | sceneNode =>
    rw [hshape] at hwhole
    exact hwhole rfl (adds_sceneNodeType _)
  | widget =>
    rw [hshape] at hwhole
    exact hwhole rfl (adds_widgetType _)
  | instanceOf text =>
    rw [hshape] at hwhole
    exact hwhole rfl (adds_instanceType _ _)
  | builtValue =>
    rw [hshape] at hwhole
    exact hwhole rfl (h.builtType hstop hs)
  | className =>
    rw [hshape] at hwhole
    exact hwhole rfl (adds_instanceType _ _)

theorem asksSoundly_typeWithin (project : Project) (c : Code) (depth : Nat) :
    AsksSoundly project c (typeWithin depth c) := by
  induction depth with
  | zero => exact fun _ _ _ _ _ _ => .throw _
  | succ depth ih => exact ih.step

theorem AsksSoundly.returnedTexts (h : AsksSoundly project c ask) {m : Match}
    (hm : m.Of c.body) :
    Adds project s (returnedTexts ask m) fun texts t =>
      ∀ text ∈ texts, Accounted (Known project c t) text := by
  refine Adds.tryCatch ?_ fun f t _ => ?_
  · refine (h false s (.inl (hm.infix_group 1)) hm.stop_le).element.bind fun type t _ _ htype => ?_
    exact .pure htype.printed
  · cases f <;> first | exact .throw _ | exact .pure (forall_mem_nil _)

theorem AsksSoundly.allReturnedTexts (h : AsksSoundly project c ask) {ms : List Match}
    (hms : ∀ m ∈ ms, m.Of c.body) :
    Adds project s (allReturnedTexts ask ms) fun texts t =>
      ∀ text ∈ texts, Accounted (Known project c t) text := by
  induction ms generalizing s with
  | nil => exact .pure (forall_mem_nil _)
  | cons m ms ih =>
    refine (h.returnedTexts (hms m mem_cons_self)).bind fun found u _ _ hfound => ?_
    refine (ih fun m hm => hms m (mem_cons_of_mem _ hm)).bind fun rest v _ hext hrest => ?_
    refine .pure (forall_mem_append.2 ⟨fun text htext => ?_, hrest⟩)
    exact (hfound text htext).mono (Known.mono hext)

theorem mem_of_mem_settle {values : List String} {hint : TypeHint}
    (hhint : TypeHint.ofList? values = some hint) (h : text ∈ hint.settle.alternatives.toList) :
    text ∈ values := by
  have hvalues : ∀ text ∈ hint.alternatives.toList, text ∈ values := by
    intro text htext
    rw [TypeHint.ofList?] at hhint
    split at hhint
    · cases hhint
    · cases hhint
      rw [OrderedSet.toList_ofList, mem_eraseDups] at htext
      exact htext
  rw [TypeHint.settle] at h
  split at h
  · next hnone =>
    rcases (OrderedSet.mem_insert _ _ _).1 h with h | h
    · exact hvalues text (mem_of_mem_erase h)
    · rw [h]
      exact hvalues _ (by simpa [OrderedSet.contains] using hnone)
  · exact hvalues text h

theorem AsksSoundly.returnTypeBy (h : AsksSoundly project c ask) :
    Adds project s (returnTypeBy ask c) fun hint t =>
      ∀ found ∈ hint, Covered (Known project c t) found.text := by
  refine (h.allReturnedTexts fun m hm => Regex.of_mem_matchesIn hm).bind
    fun texts u _ _ htexts => ?_
  rw [unionOfTexts_eq]
  dsimp only
  rw [walk_texts]
  dsimp only
  split
  · exact .pure fun _ hfound => by cases hfound
  · next hint hhint =>
    refine (Adds.needAll _).bind fun _ v _ hext hneeded => .pure fun found hfound => ?_
    cases hfound
    intro M hM
    rw [TypeHint.text, Property.separates_bar.modulesIn_join] at hM
    obtain ⟨shown, hshown, hM⟩ := mem_flatMap.1 hM
    obtain ⟨text, htext, rfl⟩ := mem_map.1 (mem_of_mem_settle hhint hshown)
    rcases htexts text (mem_eraseDups.1 htext) M hM with hknown | hown
    · exact Known.mono hext M hknown
    · refine .inl (hneeded (OrderedSet.mem_insertAll.2 (.inr ?_)))
      exact mem_flatMap_of_mem htext (Option.mem_toList.2 hown)

/-- If a body gets a result type, every module that the type mentions is imported, at any depth of
brackets and in any alternative, unless the module is hidden. -/
theorem returnText_imports_modules {text : String}
    (h : (returnText c).run project s = (.ok text, t)) :
    ∀ M ∈ modulesIn text, M ∈ t.imports.toList ∨ Hides project c M := by
  have hadds : Adds project s (returnText c) fun text t => Covered (Known project c t) text := by
    refine (asksSoundly_typeWithin project c deepest).returnTypeBy.bind fun found u _ _ hfound => ?_
    cases found with
    | some hint => exact .pure (hfound hint rfl)
    | none =>
      have hobject : modulesIn "object" = [] := by decide
      refine .pure fun M hM => ?_
      rw [hobject] at hM
      cases hM
  have hcovered := hadds.2 text (by rw [h])
  rw [h] at hcovered
  exact hcovered

end

def resultWith (body text : String) (imports : List String) : Bool :=
  let run := (returnText (.make body "" "")).run .empty {}
  run.1.toOption == some text && run.2.imports.toList == imports

theorem exists_of_resultWith {body text : String} {imports : List String}
    (h : resultWith body text imports = true) :
    ∃ t, (returnText (.make body "" "")).run .empty {} = (.ok text, t) ∧
      t.imports.toList = imports := by
  rw [resultWith] at h
  obtain ⟨htext, himports⟩ := Bool.and_eq_true_iff.1 h
  rcases hrun : (returnText (.make body "" "")).run .empty {} with ⟨outcome, t⟩
  rw [hrun] at htext himports
  cases outcome with
  | error fault => simp [Except.toOption] at htext
  | ok found =>
    obtain rfl : found = text := by simpa [Except.toOption] using htext
    exact ⟨t, rfl, beq_iff_eq.1 himports⟩

/-- The items of a packed tuple are not asked for their modules, and neither is a lone item of which
nothing is known. -/
theorem returnText_leaves_modules_out :
    modulesIn "tuple[FreeCAD.Vector]" = ["FreeCAD"] ∧ modulesIn "tuple[typing.Any]" = ["typing"] ∧
      resultWith "return PyTuple_Pack(1, Py::Vector(x));" "tuple[FreeCAD.Vector]" [] = true ∧
      resultWith "return Py::TupleN(x.y);" "tuple[typing.Any]" [] = true := by
  refine ⟨by decide, by decide, by decide +kernel, by decide +kernel⟩

/-- A vector and a value of which nothing is known, in a tuple. -/
theorem returnText_imports_modules_pair :
    let c := Code.make "return Py::TupleN(Py::Vector(a), b.c);" "" ""
    ∃ t, (returnText c).run .empty {} = (.ok "tuple[FreeCAD.Vector, typing.Any]", t) ∧
      t.imports.toList = ["FreeCAD", "typing"] ∧
      ∀ M ∈ ["FreeCAD", "typing"], M ∈ t.imports.toList ∨ Hides .empty c M := by
  intro c
  have hcheck : resultWith "return Py::TupleN(Py::Vector(a), b.c);"
      "tuple[FreeCAD.Vector, typing.Any]" ["FreeCAD", "typing"] = true := by decide +kernel
  have hmodules : modulesIn "tuple[FreeCAD.Vector, typing.Any]" = ["FreeCAD", "typing"] := by decide
  obtain ⟨t, hrun, himports⟩ := exists_of_resultWith hcheck
  refine ⟨t, hrun, himports, ?_⟩
  rw [← hmodules]
  exact returnText_imports_modules hrun

end BindingStubs.Inference
