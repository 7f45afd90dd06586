import BindingStubs.Inference.Variable
import BindingStubs.Proofs.Agreement
import BindingStubs.Proofs.Format.Decoding
import BindingStubs.Proofs.Pattern.Places
import Mathlib.Data.List.Forall2

set_option autoImplicit false

/-! # Questions and answers that agree -/

namespace BindingStubs.Inference

open Gen
open Pattern (Match Regex)

/-- A text that can be asked for: a part of the body, or of the one name that a rule asks for on
its own account. -/
def Code.Mentions (c : Code) (text : String) : Prop :=
  text.toList <:+: c.body ∨ Text.Within text "type"

section
variable {c : Code} {s t : String}

theorem Code.Mentions.within (ht : c.Mentions t) (h : Text.Within s t) : c.Mentions s :=
  ht.imp (List.IsInfix.trans h) h.trans

theorem Code.mentions_headD_commaPieces (h : c.Mentions t) :
    c.Mentions ((Source.commaPieces t).headD "") :=
  h.within (Source.within_headD_commaPieces t)

theorem within_bareExpression (s : String) : Text.Within (bareExpression s) s := by
  have hreference : Text.Within (dereference (Text.trim s)) s := by
    have htrim := (Text.Within.refl s).trim
    rw [dereference]
    split
    · exact (((htrim.dropStart _).dropStart _).dropEnd _).trim
    · exact htrim
  exact ((((((hreference.dropStart _).trim).dropStart _).trim.dropEnd _).trim).dropEnd _).trim

theorem within_wrappedObject (s : String) : Text.Within (wrappedObject s) s := by
  have hbare : Text.Within (Text.dropEnd (Text.dropEnd (Text.dropEnd
      (Text.dropEnd s "getPyObject()") ".") "->") ")") s :=
    ((((Text.Within.refl s).dropEnd _).dropEnd _).dropEnd _).dropEnd _
  simp only [wrappedObject]
  rcases hcut : Text.cutLast? _ "(" with _ | ⟨front, rest⟩
  · exact hbare
  · exact (Text.Within.cutLast hcut hbare).2

end

def Shape.asked? : Shape → Option String
  | .like text | .listLike text => some text
  | _ => none

/-- A shape asks at most for the text "type" or a part of a given text. -/
def Shape.AsksWithin (s : String) (found : Shape) : Prop :=
  ∀ text ∈ found.asked?, text = "type" ∨ Text.Within text s

namespace Shape.AsksWithin

variable {s : String} {found other : Shape}

theorem none (h : found.asked? = .none) : found.AsksWithin s := by
  intro text htext
  rw [h] at htext
  cases htext

theorem like {text : String} (h : Text.Within text s) : (Shape.like text).AsksWithin s := by
  rintro _ ⟨⟩
  exact .inr h

theorem ite {p : Prop} [Decidable p] (h : found.AsksWithin s) (hother : other.AsksWithin s) :
    (if p then found else other).AsksWithin s := by
  split
  · exact h
  · exact hother

theorem table {rules : List (String × Shape)} (hrules : ∀ rule ∈ rules, rule.2.asked? = .none)
    (hother : other.AsksWithin s) :
    (match shapeByStart? rules s with
      | some found => found
      | .none => other).AsksWithin s := by
  split
  · next found hfound =>
    obtain ⟨rule, hrule, rfl⟩ := Option.map_eq_some_iff.1 hfound
    exact none (hrules rule (List.mem_of_find?_eq_some hrule))
  · exact hother

end Shape.AsksWithin

theorem asksWithin_otherShape (literal : Bool) (s : String) :
    (otherShape literal s).AsksWithin s := by
  have hs := Text.Within.refl s
  refine .ite (.none rfl) <| .ite (.none rfl) <| .ite (.like (within_wrappedObject s)) <|
    .ite (.none rfl) <| .ite (.none rfl) <| .ite (.none rfl) <|
    .ite (.ite (.none rfl) (.none rfl)) <| .ite (.none rfl) <|
    .ite (.like ((hs.dropStart _).dropEnd _)) <| .ite (.none rfl) (.none rfl)

theorem asksWithin_shape (literal : Bool) (s : String) : (shape literal s).AsksWithin s := by
  have hs := Text.Within.refl s
  have htype : (Shape.like "type").AsksWithin s := by
    rintro _ ⟨⟩
    exact .inl rfl
  have hitems : (Shape.listLike (Text.before (Text.dropStart s shapesStart) ">")).AsksWithin s := by
    rintro _ ⟨⟩
    exact .inr ((hs.dropStart _).before _)
  refine .ite (.none rfl) <| .ite (.none rfl) <| .ite (.none rfl) <|
    .ite (.ite (.none rfl) (.none rfl)) <| .ite htype <| .ite (.none rfl) <|
    .ite (.like (hs.dropEnd _)) <| .ite (.none rfl) <| .table (by decide) <|
    .ite (.none rfl) <| .ite (.none rfl) <| .ite (.ite (.none rfl) (.none rfl)) <|
    .table (by decide) <| .ite hitems <| .table (by decide) (asksWithin_otherShape literal s)

theorem indifferent_captured (m : Match) (index : Nat) : Indifferent (captured m index) := by
  rw [captured]
  split
  · exact .pure _
  · exact .throw _

theorem indifferent_piece (pieces : List String) (index : Nat) :
    Indifferent (piece pieces index) := by
  rw [piece]
  split
  · exact .pure _
  · exact .throw _

theorem indifferent_patternOf (written : String) (flags : Pattern.Flags) :
    Indifferent (patternOf written flags) := .demand _

theorem indifferent_instanceType (c : Code) (text differsFrom : String) :
    Indifferent (instanceType c text differsFrom) := by
  refine .bind (ClassReference.indifferent_ofCppType _) fun full => ?_
  cases c.owner with
  | none => exact .throw _
  | some owner =>
    dsimp only
    split_ifs
    · exact .pure _
    · exact .pure _
    · exact .pure _
    · split
      · exact .pure _
      · split_ifs
        · exact .pure _
        · exact .bind (.need _) fun _ => .pure _

theorem indifferent_sceneNodeType (s : String) : Indifferent (sceneNodeType s) := by
  refine .bind (.demand _) fun arguments => .bind (indifferent_piece _ _) fun moduleName =>
    .bind (indifferent_piece _ _) fun name => ?_
  dsimp only
  split_ifs <;> exact .pure _

theorem indifferent_widgetType (s : String) : Indifferent (widgetType s) := by
  refine .bind (.demand _) fun arguments => ?_
  split
  · exact .pure _
  · exact .pure _
  · exact .throw _

theorem indifferent_dictText (found : DictItems) : Indifferent (dictText found) := by
  rw [dictText]
  split_ifs
  · exact .pure _
  · exact .bind (.needAll _) fun _ => .pure _
  · exact .bind (.demand _) fun _ => .bind (.needAll _) fun _ => .pure _
  · exact .throw _

theorem mem_of_gives_piece {project : Project} {pieces : List String} {index : Nat} {s : String}
    (h : Gives project (piece pieces index) s) : s ∈ pieces := by
  rw [piece] at h
  split at h
  · next found hfound =>
    rw [h.of_pure]
    exact List.mem_of_getElem? hfound
  · exact absurd h not_gives_throw

theorem group?_of_gives_captured {project : Project} {m : Match} {index : Nat} {s : String}
    (h : Gives project (captured m index) s) : m.group? index = some s := by
  rw [captured] at h
  split at h
  · next found hfound => rw [hfound, h.of_pure]
  · exact absurd h not_gives_throw

open List

def AsksAlike (project : Project) (fault : Fault) (c : Code) (ask ask' : Ask) : Prop :=
  ∀ ⦃expression : String⦄ ⦃stop : Nat⦄ (literal : Bool), c.Mentions expression →
    stop ≤ c.body.length →
    AgreesUnless project fault (ask expression stop literal) (ask' expression stop literal)

section
variable {project : Project} {fault : Fault} {c : Code} {ask ask' : Ask} {stop : Nat}

variable {m : Match}

theorem mentions_of_gives_captured {index : Nat} {s : String} (hm : m.Of c.body)
    (h : Gives project (captured m index) s) : c.Mentions s :=
  .inl (hm.infix_of_group? (group?_of_gives_captured h))

theorem mentions_of_gives_piece {text s : String} {index : Nat} (htext : c.Mentions text)
    (h : Gives project (piece (Source.commaPieces text) index) s) : c.Mentions s :=
  htext.within (Source.within_of_mem_commaPieces (mem_of_gives_piece h))

section
variable (h : AsksAlike project fault c ask ask') (hfault : fault ≠ .nothingLeft)
  (hstop : stop ≤ c.body.length)
include h hstop

theorem AsksAlike.captured (hm : m.Of c.body) (index : Nat) :
    AgreesUnless project fault (do ask (← captured m index) stop false)
      (do ask' (← Inference.captured m index) stop false) :=
  .bind (.refl (indifferent_captured m index)) fun _ hs =>
    h false (mentions_of_gives_captured hm hs) hstop

section
variable {α : Type} {then_ then_' : TypeExpr → Gen α}
  (hthen : ∀ type, AgreesUnless project fault (then_ type) (then_' type))
include hthen

theorem AsksAlike.captured_bind (hm : m.Of c.body) (index : Nat) :
    AgreesUnless project fault
      (Inference.captured m index >>= fun text => ask text stop false >>= then_)
      (Inference.captured m index >>= fun text => ask' text stop false >>= then_') :=
  .bind (.refl (indifferent_captured m index)) fun _ hs =>
    .bind (h false (mentions_of_gives_captured hm hs) hstop) fun type _ => hthen type

theorem AsksAlike.piece_bind {text : String} (htext : c.Mentions text) (index : Nat) :
    AgreesUnless project fault
      (piece (Source.commaPieces text) index >>= fun value => ask value stop false >>= then_)
      (piece (Source.commaPieces text) index >>= fun value => ask' value stop false >>= then_') :=
  .bind (.refl (indifferent_piece _ index)) fun _ hs =>
    .bind (h false (mentions_of_gives_piece htext hs) hstop) fun type _ => hthen type

end

variable {ms : List Match}

include hfault in
theorem AsksAlike.caughtTypes (hms : ∀ m ∈ ms, m.Of c.body) :
    AgreesUnless project fault (caughtTypes ask stop ms) (caughtTypes ask' stop ms) := by
  induction ms with
  | nil => exact .pure _
  | cons m ms ih =>
    refine .bind ((h.captured hstop (hms m mem_cons_self) 1).element hfault) fun found _ => ?_
    exact .bind (ih fun m hm => hms m (mem_cons_of_mem _ hm)) fun _ _ => .pure _

theorem AsksAlike.builtType {s : String} (hs : c.Mentions s) :
    AgreesUnless project fault (builtType ask s stop) (builtType ask' s stop) := by
  refine .bind (.refl (.demand _)) fun arguments harguments => .bind (.refl .read) fun _ _ => ?_
  refine .bind (.refl (indifferent_piece _ _)) fun format _ => ?_
  refine .bind (.refl (.demand _)) fun type _ => ?_
  split
  · exact .pure _
  · refine .bind (.refl (indifferent_piece _ _)) fun value hvalue => h true ?_ hstop
    exact hs.within
      (Source.within_of_callArguments harguments.of_demand (mem_of_gives_piece hvalue)).trim

theorem AsksAlike.shownTypes {texts : List String} (htexts : ∀ s ∈ texts, c.Mentions s) :
    AgreesUnless project fault (shownTypes ask stop texts) (shownTypes ask' stop texts) := by
  induction texts with
  | nil => exact .pure _
  | cons s texts ih =>
    refine .bind (h false (htexts s mem_cons_self) hstop) fun found _ => ?_
    exact .bind (ih fun s hs => htexts s (mem_cons_of_mem _ hs)) fun _ _ => .pure _

theorem AsksAlike.packedType {s : String} (hs : c.Mentions s) :
    AgreesUnless project fault (packedType ask s stop) (packedType ask' s stop) := by
  refine .bind (.refl (.demand _)) fun arguments harguments => ?_
  refine .bind (h.shownTypes hstop fun argument hargument => ?_) fun _ _ => .pure _
  exact hs.within
    (Source.within_of_callArguments harguments.of_demand (mem_of_mem_drop hargument))

theorem AsksAlike.firstArgumentType {s : String} (hs : c.Mentions s) :
    AgreesUnless project fault (firstArgumentType ask s stop) (firstArgumentType ask' s stop) := by
  refine .bind (.refl (.demand _)) fun arguments harguments => ?_
  split
  · exact .refl (.throw _)
  · exact h false (hs.within
      (Source.within_of_callArguments harguments.of_demand mem_cons_self)) hstop

include hfault in
theorem AsksAlike.appendedTypes (name : String) (start : Nat) :
    AgreesUnless project fault (appendedTypes ask c name start stop)
      (appendedTypes ask' c name start stop) := by
  refine .bind (.refl (indifferent_patternOf _ _)) fun r _ => ?_
  refine .bind (h.caughtTypes hfault hstop fun m hm => ?_) fun _ _ => .pure _
  exact Regex.of_mem_matchesIn hm

theorem AsksAlike.setListTypes (hms : ∀ m ∈ ms, m.Of c.body) (found : TypeExpr) :
    AgreesUnless project fault (setListTypes ask stop found ms)
      (setListTypes ask' stop found ms) := by
  induction ms generalizing found with
  | nil => exact .pure _
  | cons m ms ih =>
    refine h.captured_bind hstop (fun type => ?_) (hms m mem_cons_self) 1
    have hrest := ih (fun m hm => hms m (mem_cons_of_mem _ hm)) (found.add type)
    split_ifs
    · exact .bind (.refl (.throw _)) fun _ _ => hrest
    · exact hrest

include hfault in
theorem AsksAlike.listType (name : String) (start : Nat) :
    AgreesUnless project fault (listType ask c name start stop)
      (listType ask' c name start stop) := by
  refine .bind (h.appendedTypes hfault hstop name start) fun appended _ => ?_
  have hshown : ∀ items : TypeExpr, Indifferent (if items.alternatives.isEmpty then
      pure (TypeExpr.text "list")
    else do
      needAll items.print.2.learned.toList
      return TypeExpr.text ("list[" ++ items.print.1 ++ "]")) := by
    intro items
    split_ifs
    · exact .pure _
    · exact .bind (.needAll _) fun _ => .pure _
  dsimp only
  split_ifs
  · refine .bind (.refl (indifferent_patternOf _ _)) fun r _ => ?_
    refine .bind (h.setListTypes hstop (fun m hm => Regex.of_mem_matchesIn hm) _)
      fun items _ => ?_
    exact .refl (hshown items)
  · exact .bind (.pure _) fun items _ => .refl (hshown items)

include hfault in
theorem AsksAlike.typesOf {texts : List String} (htexts : ∀ s ∈ texts, c.Mentions s) :
    AgreesUnless project fault (typesOf ask stop texts) (typesOf ask' stop texts) := by
  induction texts with
  | nil => exact .pure _
  | cons s texts ih =>
    refine .bind ((h false (htexts s mem_cons_self) hstop).element hfault) fun found _ => ?_
    exact .bind (ih fun s hs => htexts s (mem_cons_of_mem _ hs)) fun _ _ => .pure _

include hfault in
theorem AsksAlike.constructedItems (r : Regex) (start : Nat) :
    AgreesUnless project fault (constructedItems ask c r start stop)
      (constructedItems ask' c r start stop) := by
  rw [Inference.constructedItems, Inference.constructedItems]
  split
  · exact .pure _
  · next m hm =>
    refine .bind (.refl (indifferent_captured m 1)) fun written hwritten => ?_
    have hmentions := mentions_of_gives_captured (Regex.of_searchIn hm) hwritten
    refine .bind (h.typesOf hfault hstop fun s hs => ?_) fun _ _ => .pure _
    exact hmentions.within (Source.within_of_mem_commaPieces hs)

/-- A way to read an item off a statement that only finds parts of the body. -/
structure ReadsWithin (project : Project) (c : Code)
    (read : Match → Gen (String × Gen String)) : Prop where
  indifferent : ∀ m, Indifferent (read m)
  value : ∀ m item, m.Of c.body → Gives project (read m) item →
    Indifferent item.2 ∧ ∀ s, Gives project item.2 s → c.Mentions s

omit h hstop in
theorem readsWithin_byCall (project : Project) (c : Code) : ReadsWithin project c byCall where
  indifferent := fun m => .bind (indifferent_captured m 1) fun _ => .pure _
  value := by
    rintro m item hm ⟨s, t, hrun⟩
    obtain ⟨written, u, hwritten, hitem⟩ := run_bind_eq_ok.1 hrun
    have hmentions := mentions_of_gives_captured hm ⟨s, u, hwritten⟩
    cases hitem
    exact ⟨indifferent_piece _ _, fun value hvalue => mentions_of_gives_piece hmentions hvalue⟩

omit h hstop in
theorem readsWithin_byNames (project : Project) (c : Code) (r : Regex) :
    ReadsWithin project c (byNames r) where
  indifferent := by
    intro m
    rw [byNames]
    split
    · exact .pure _
    · exact .throw _
  value := by
    intro m item hm hitem
    rw [byNames] at hitem
    split at hitem
    · next index value hindex hvalue =>
      rw [hitem.of_pure]
      refine ⟨.pure _, fun s hs => ?_⟩
      rw [hs.of_pure]
      exact .inl (hm.infix_of_group? hvalue)
    · exact absurd hitem not_gives_throw

include hfault in
theorem AsksAlike.setItems {read : Match → Gen (String × Gen String)}
    (hread : ReadsWithin project c read) (hms : ∀ m ∈ ms, m.Of c.body) :
    AgreesUnless project fault (setItems ask stop read ms) (setItems ask' stop read ms) := by
  induction ms with
  | nil => exact .pure _
  | cons m ms ih =>
    refine .bind (.refl (hread.indifferent m)) fun item hitem => ?_
    obtain ⟨hvalue, hmentions⟩ := hread.value m item (hms m mem_cons_self) hitem
    refine .bind (.element (.bind (.refl hvalue) fun s hs => h false (hmentions s hs) hstop) hfault)
      fun found _ => ?_
    exact .bind (ih fun m hm => hms m (mem_cons_of_mem _ hm)) fun _ _ => .pure _

include hfault in
theorem AsksAlike.tupleSources {start : Nat} (hstart : start ≤ c.body.length) (name : String)
    (declared : Nat) :
    List.Forall₂ (AgreesUnless project fault) (tupleSources ask c name declared start stop)
      (tupleSources ask' c name declared start stop) := by
  have hset : ∀ (r : Regex) {read}, ReadsWithin project c read →
      AgreesUnless project fault (Inference.setItems ask stop read (c.matches r start stop))
        (Inference.setItems ask' stop read (c.matches r start stop)) := fun r _ hread =>
    h.setItems hfault hstop hread fun m hm => Regex.of_mem_matchesIn hm
  refine .cons ?_ <| .cons ?_ <| .cons ?_ <| .cons ?_ <| .cons ?_ .nil
  · exact .bind (.refl (indifferent_patternOf _ _)) fun r _ =>
      h.constructedItems hfault hstart r declared
  · exact .bind (.refl (indifferent_patternOf _ _)) fun r _ => hset r (readsWithin_byCall project c)
  · exact .bind (.refl (indifferent_patternOf _ _)) fun r _ =>
      hset r (readsWithin_byNames project c r)
  · exact .bind (.refl (indifferent_patternOf _ _)) fun r _ =>
      hset r (readsWithin_byNames project c r)
  · exact .bind (.refl (indifferent_patternOf _ _)) fun r _ =>
      h.constructedItems hfault hstop r declared

omit h hstop in
theorem agreesUnless_firstTuple {sources sources' : List (Gen (List TypeExpr × Bool))}
    (h : List.Forall₂ (AgreesUnless project fault) sources sources') :
    AgreesUnless project fault (firstTuple sources) (firstTuple sources') := by
  induction h with
  | nil => exact .refl (.throw _)
  | cons hsource _ ih =>
    refine .bind hsource fun found _ => ?_
    obtain ⟨items, varies⟩ := found
    dsimp only
    split_ifs
    · exact ih
    · exact .refl (.bind (.needAll _) fun _ => .pure _)

include hfault in
theorem AsksAlike.tupleType {start : Nat} (hstart : start ≤ c.body.length) (name : String)
    (declared : Nat) :
    AgreesUnless project fault (tupleType ask c name declared start stop)
      (tupleType ask' c name declared start stop) :=
  agreesUnless_firstTuple (h.tupleSources hfault hstop hstart name declared)

theorem AsksAlike.setStringItem (hm : m.Of c.body) (found : DictItems) :
    AgreesUnless project fault (setStringItem ask stop found m)
      (setStringItem ask' stop found m) := by
  refine .bind (.refl (indifferent_captured m 1)) fun written hwritten => ?_
  exact h.piece_bind hstop (fun _ => .pure _) (mentions_of_gives_captured hm hwritten) 2

theorem AsksAlike.setItem (hm : m.Of c.body) (found : DictItems) :
    AgreesUnless project fault (setItem ask stop found m) (setItem ask' stop found m) := by
  refine .bind (.refl (indifferent_captured m 1)) fun written hwritten => ?_
  have hmentions := mentions_of_gives_captured hm hwritten
  refine h.piece_bind hstop (fun _ => ?_) hmentions 1
  exact h.piece_bind hstop (fun _ => .pure _) hmentions 2

theorem AsksAlike.setMember (hm : m.Of c.body) (found : DictItems) :
    AgreesUnless project fault (setMember ask stop found m) (setMember ask' stop found m) := by
  refine .bind (.refl (indifferent_captured m 1)) fun written hwritten => ?_
  have hmentions := mentions_of_gives_captured hm hwritten
  refine h.piece_bind hstop (fun _ => ?_) hmentions 1
  dsimp only
  split_ifs
  · exact .pure _
  · exact .bind (h false (c.mentions_headD_commaPieces hmentions) hstop) fun _ _ => .pure _

theorem AsksAlike.assignMember (hm : m.Of c.body) (found : DictItems) :
    AgreesUnless project fault (assignMember ask stop found m) (assignMember ask' stop found m) :=
  .bind (.refl (indifferent_captured m 1)) fun _ _ =>
    h.captured_bind hstop (fun _ => .pure _) hm 2

theorem AsksAlike.assignItem (hm : m.Of c.body) (found : DictItems) :
    AgreesUnless project fault (assignItem ask stop found m) (assignItem ask' stop found m) :=
  h.captured_bind hstop (fun _ => h.captured_bind hstop (fun _ => .pure _) hm 2) hm 1

/-- Two sources of dictionary items with one pattern that add the same items. -/
def SourcesAgree (project : Project) (fault : Fault) (c : Code)
    (source source' : String × (DictItems → Match → Gen DictItems)) : Prop :=
  source.1 = source'.1 ∧ ∀ found m, m.Of c.body →
    AgreesUnless project fault (source.2 found m) (source'.2 found m)

theorem AsksAlike.dictSources (name : String) :
    List.Forall₂ (SourcesAgree project fault c) (dictSources ask name stop)
      (dictSources ask' name stop) :=
  .cons ⟨rfl, fun found _ hm => h.setStringItem hstop hm found⟩ <|
    .cons ⟨rfl, fun found _ hm => h.setItem hstop hm found⟩ <|
    .cons ⟨rfl, fun found _ hm => h.setMember hstop hm found⟩ <|
    .cons ⟨rfl, fun found _ hm => h.assignMember hstop hm found⟩ <|
    .cons ⟨rfl, fun found _ hm => h.assignItem hstop hm found⟩ .nil

omit h hstop in
theorem agreesUnless_mapItems {add add' : DictItems → Match → Gen DictItems}
    (h : ∀ found m, m.Of c.body → AgreesUnless project fault (add found m) (add' found m))
    (hms : ∀ m ∈ ms, m.Of c.body) (found : DictItems) :
    AgreesUnless project fault (mapItems add found ms) (mapItems add' found ms) := by
  induction ms generalizing found with
  | nil => exact .pure _
  | cons m ms ih =>
    exact .bind (h found m (hms m mem_cons_self)) fun found _ =>
      ih (fun m hm => hms m (mem_cons_of_mem _ hm)) found

omit h hstop in
theorem agreesUnless_firstDict {start stop : Nat}
    {sources sources' : List (String × (DictItems → Match → Gen DictItems))}
    (h : List.Forall₂ (SourcesAgree project fault c) sources sources') :
    AgreesUnless project fault (firstDict c start stop sources)
      (firstDict c start stop sources') := by
  induction h with
  | nil =>
    rw [firstDict]
    split_ifs
    · exact .pure _
    · exact .refl (.throw _)
  | @cons source source' _ _ hsource _ ih =>
    obtain ⟨written, add⟩ := source
    obtain ⟨written', add'⟩ := source'
    obtain ⟨rfl, hadd⟩ := hsource
    refine .bind (.refl (indifferent_patternOf _ _)) fun r _ => ?_
    refine .bind (agreesUnless_mapItems hadd (fun m hm => Regex.of_mem_matchesIn hm) _)
      fun found _ => ?_
    refine .bind (.refl (indifferent_dictText found)) fun type _ => ?_
    split
    · exact .pure _
    · exact ih

include hfault in
theorem AsksAlike.withItems {start : Nat} (hstart : start ≤ c.body.length) (type name : String)
    (declared : Nat) :
    AgreesUnless project fault (withItems ask c type name declared start stop)
      (withItems ask' c type name declared start stop) := by
  unfold Inference.withItems
  split
  · exact h.listType hfault hstop name start
  · exact h.tupleType hfault hstop hstart name declared
  · exact agreesUnless_firstDict (h.dictSources hstop name)
  · exact .pure _

structure Declaration.Of (c : Code) (d : Declaration) : Prop where
  type : c.Mentions d.type
  value : c.Mentions d.value
  arguments : c.Mentions d.arguments
  stop_le : d.stop ≤ c.body.length

omit h hstop in
theorem within_declaredType {written type : String} (h : declaredType? written = some type) :
    Text.Within type written := by
  rw [declaredType?] at h
  split at h
  · cases h
  · extract_lets inner bare at h
    have hwithin : Text.Within inner written := by
      unfold inner
      split_ifs
      · split
        · next hcut => exact (Text.Within.cutFirst hcut (.refl _)).2.before _
        · exact .refl _
      · exact .refl _
    split at h
    · cases h
    · rw [← Option.some.inj h]
      exact (((hwithin.dropStart _).trim).dropEnd _).trim

omit h hstop in
theorem of_lastDeclaration {name : String} {d : Declaration}
    (h : Gives project (lastDeclaration? c name stop) (some d)) : d.Of c := by
  obtain ⟨s, t, hrun⟩ := h
  obtain ⟨r, u, -, hfound⟩ := run_bind_eq_ok.1 hrun
  have hlast : (c.matches r 0 stop).reverse.findSome? (declaration? r) = some d :=
    Except.ok.inj (Prod.mk.inj hfound).1
  obtain ⟨m, hmem, hm⟩ := exists_of_findSome?_eq_some hlast
  have hof : m.Of c.body := Regex.of_mem_matchesIn (mem_reverse.1 hmem)
  rw [declaration?] at hm
  split_ifs at hm
  obtain ⟨type, htype, rfl⟩ := Option.map_eq_some_iff.1 hm
  have hmentions : ∀ index, c.Mentions (m.group index) := fun index => .inl (hof.infix_group index)
  exact ⟨(hmentions _).within (within_declaredType htype), hmentions _, hmentions _, hof.stop_le⟩

theorem AsksAlike.typeOfDeclaration {d : Declaration} (hd : d.Of c) :
    AgreesUnless project fault (typeOfDeclaration ask d stop) (typeOfDeclaration ask' d stop) := by
  rw [Inference.typeOfDeclaration, Inference.typeOfDeclaration]
  split_ifs
  · exact h true hd.value hstop
  · exact h false (c.mentions_headD_commaPieces hd.arguments) hstop
  · exact .pure _
  · exact h true hd.type hstop

include hfault in
theorem AsksAlike.assignedType (name : String) (start : Nat) :
    AgreesUnless project fault (assignedType ask c name start stop)
      (assignedType ask' c name start stop) := by
  refine .bind (.refl (indifferent_patternOf _ _)) fun r _ => ?_
  exact .bind (h.caughtTypes hfault hstop fun m hm => Regex.of_mem_matchesIn hm)
    fun _ _ => .pure _

include hfault in
theorem AsksAlike.variableType {name : String} (hname : c.Mentions name) :
    AgreesUnless project fault (variableType ask c name stop) (variableType ask' c name stop) := by
  unfold Inference.variableType
  dsimp only
  split_ifs
  · cases c.owner with
    | some owner => exact .pure _
    | none => exact .bind (.refl (.throw _)) fun _ ha => absurd ha not_gives_throw
  · refine .bind (.refl (.bind (indifferent_patternOf _ _) fun _ => .pure _)) fun found hfound => ?_
    cases found with
    | none => exact h true hname hstop
    | some d =>
      have hd := of_lastDeclaration hfound
      have hassigned := h.assignedType hfault hstop name d.stop
      have hitems : ∀ s, AgreesUnless project fault
          (Inference.withItems ask c s name d.start d.stop stop)
          (Inference.withItems ask' c s name d.start d.stop stop) :=
        fun s => h.withItems hfault hstop hd.stop_le s name d.start
      refine .bind (h.typeOfDeclaration hstop hd) fun declared _ => ?_
      split_ifs
      · exact .bind hassigned fun _ _ => .pure _
      · refine .bind hassigned fun type _ => ?_
        cases type with
        | text s => exact hitems s
        | any | union => exact .pure _
      · refine .bind (.pure _) fun type _ => ?_
        cases type with
        | text s => exact hitems s
        | any | union => exact .pure _

end

theorem AsksAlike.step (h : AsksAlike project fault c ask ask') (hfault : fault ≠ .nothingLeft) :
    AsksAlike project fault c (step ask c) (step ask' c) := by
  intro expression stop literal hexpression hstop
  have hs : c.Mentions (bareExpression expression) :=
    hexpression.within (within_bareExpression expression)
  have hasked := asksWithin_shape literal (bareExpression expression)
  have hmentions : ∀ text ∈ (shape literal (bareExpression expression)).asked?, c.Mentions text := by
    intro text htext
    rcases hasked text htext with rfl | hwithin
    · exact .inr (.refl _)
    · exact hs.within hwithin
  unfold Inference.step
  dsimp only
  cases hshape : shape literal (bareExpression expression) with
  | anything => exact .pure _
  | known => exact .pure _
  | owner => exact .pure _
  | null => exact .refl (.throw _)
  | like other =>
    rw [hshape] at hmentions
    exact h false (hmentions other rfl) hstop
  | tupleOfArguments => exact h.tupleType hfault hstop hstop _ _
  | packedTuple => exact h.packedType hstop hs
  | listLike other =>
    rw [hshape] at hmentions
    exact .bind (h false (hmentions other rfl) hstop) fun _ _ => .pure _
  | sceneNode => exact .refl (indifferent_sceneNodeType _)
  | widget => exact .refl (indifferent_widgetType _)
  | instanceOf => exact .refl (indifferent_instanceType _ _ _)
  | builtValue => exact h.builtType hstop hs
  | firstArgument => exact h.firstArgumentType hstop hs
  | className => exact .refl (indifferent_instanceType _ _ _)
  | variableName => exact h.variableType hfault hstop hs
  | unrecognised => exact .refl (.bind (.report _ _ _) fun _ => .pure _)

theorem asksAlike_typeWithin (project : Project) (c : Code) {n m : Nat} (h : n ≤ m) :
    AsksAlike project .tooDeep c (typeWithin n c) (typeWithin m c) := by
  induction n generalizing m with
  | zero => exact fun _ _ _ _ _ => .of_fault fun _ => rfl
  | succ n ih =>
    cases m with
    | zero => exact absurd h (Nat.not_succ_le_zero n)
    | succ m => exact (ih (Nat.le_of_succ_le_succ h)).step (by decide)

def ReturnsAgree (project : Project) (fault : Fault) (ask ask' : Ask) (m m' : Match) : Prop :=
  AgreesUnless project fault (ask (m.group 1) m.stop false) (ask' (m'.group 1) m'.stop false)

theorem ReturnsAgree.returnedTexts {m m' : Match}
    (h : ReturnsAgree project fault ask ask' m m') (hfault : fault ≠ .nothingLeft)
    (hnull : fault ≠ .nullResult) :
    AgreesUnless project fault (returnedTexts ask m) (returnedTexts ask' m') := by
  refine .tryCatch (.bind (h.element hfault) fun _ _ => .pure _) ?_ fun f => ?_
  · cases fault <;> first | rfl | exact absurd rfl hnull
  · cases f <;> first | exact .throw _ | exact .pure _

theorem agreesUnless_allReturnedTexts {ms ms' : List Match}
    (h : List.Forall₂ (ReturnsAgree project fault ask ask') ms ms') (hfault : fault ≠ .nothingLeft)
    (hnull : fault ≠ .nullResult) :
    AgreesUnless project fault (allReturnedTexts ask ms) (allReturnedTexts ask' ms') := by
  induction h with
  | nil => exact .pure _
  | cons hm _ ih =>
    exact .bind (hm.returnedTexts hfault hnull) fun _ _ => .bind ih fun _ _ => .pure _

theorem agreesUnless_returnTypeBy {c' : Code}
    (h : List.Forall₂ (ReturnsAgree project fault ask ask')
      (c.matches returnPattern 0 c.body.length) (c'.matches returnPattern 0 c'.body.length))
    (hfault : fault ≠ .nothingLeft) (hnull : fault ≠ .nullResult) :
    AgreesUnless project fault (returnTypeBy ask c) (returnTypeBy ask' c') := by
  refine .bind (agreesUnless_allReturnedTexts h hfault hnull) fun texts _ => .refl ?_
  split
  · dsimp only
    split
    · exact .pure _
    · exact .bind (.needAll _) fun _ => .pure _
  · exact .pure _

theorem AsksAlike.returnTypeBy (h : AsksAlike project fault c ask ask')
    (hfault : fault ≠ .nothingLeft) (hnull : fault ≠ .nullResult) :
    AgreesUnless project fault (returnTypeBy ask c) (returnTypeBy ask' c) := by
  refine agreesUnless_returnTypeBy (forall₂_same.2 fun m hm => ?_) hfault hnull
  have hof := Regex.of_mem_matchesIn hm
  exact h false (.inl (hof.infix_group 1)) hof.stop_le

end

end BindingStubs.Inference
