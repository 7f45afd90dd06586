import BindingStubs.Proofs.Format.Decoding
import BindingStubs.Proofs.Format.Reading

set_option autoImplicit false

/-! # Items of formats -/

namespace BindingStubs.Format

open Gen List

inductive Item where
  | unit (u : ArgumentUnit) (known : u ∈ argumentUnits) (arguments : List String)
      (sized : arguments.length = u.size)
  | group (first : Item) (rest : List Item)

mutual

def Item.symbols : Item → List Symbol
  | .unit u _ _ _ => [.unit u]
  | .group first rest => .groupStart :: (first.symbols ++ (symbolsOf rest ++ [.groupEnd]))

def symbolsOf : List Item → List Symbol
  | [] => []
  | item :: items => item.symbols ++ symbolsOf items

end

mutual

def Item.arguments : Item → List String
  | .unit _ _ arguments _ => arguments
  | .group first rest => first.arguments ++ argumentsOf rest

def argumentsOf : List Item → List String
  | [] => []
  | item :: items => item.arguments ++ argumentsOf items

end

def Item.tupleType (types : List String) : String := "tuple[" ++ Text.join ", " types ++ "]"

mutual

def Item.type? (project : Project) : Item → Option String
  | .unit u _ arguments _ => unitTypeIn project u arguments
  | .group first rest => do
    let type ← first.type? project
    let types ← types? project rest
    return Item.tupleType (type :: types)

def types? (project : Project) : List Item → Option (List String)
  | [] => some []
  | item :: items => do
    let type ← item.type? project
    let types ← types? project items
    return type :: types

end

inductive Entry where
  | item (i : Item)
  | optional
  | keywordOnly

namespace Entry

def symbols : Entry → List Symbol
  | item i => i.symbols
  | optional => [.optional]
  | keywordOnly => [.keywordOnly]

def item? : Entry → Option Item
  | item i => some i
  | _ => none

end Entry

mutual

theorem Item.symbols_known (item : Item) : ∀ x ∈ item.symbols, x.IsKnown := by
  cases item with
  | unit u known arguments sized =>
    rintro x hx
    obtain rfl := mem_singleton.mp hx
    exact known
  | group first rest =>
    rw [Item.symbols, forall_mem_cons, forall_mem_append, forall_mem_append]
    exact ⟨trivial, first.symbols_known, symbolsOf_known rest, by simp [Symbol.IsKnown]⟩

theorem symbolsOf_known (items : List Item) : ∀ x ∈ symbolsOf items, x.IsKnown := by
  cases items with
  | nil => simp [symbolsOf]
  | cons item items =>
    rw [symbolsOf, forall_mem_append]
    exact ⟨item.symbols_known, symbolsOf_known items⟩

end

theorem Entry.symbols_known (entry : Entry) : ∀ x ∈ entry.symbols, x.IsKnown := by
  cases entry with
  | item i => exact i.symbols_known
  | optional => simp [Entry.symbols, Symbol.IsKnown]
  | keywordOnly => simp [Entry.symbols, Symbol.IsKnown]

def written (entries : List Entry) (ending : List Char) : String :=
  String.ofList ((entries.flatMap Entry.symbols).flatMap Symbol.text ++ ending)

theorem map_symbols_written (entries : List Entry) {ending : List Char} (ends : IsEnding ending) :
    (symbols (written entries ending)).map Prod.fst = entries.flatMap Entry.symbols := by
  rw [symbols, written, String.toList_ofList]
  refine map_symbolsFrom_texts (fun x hx => ?_) ends
  obtain ⟨entry, -, hx⟩ := mem_flatMap.mp hx
  exact entry.symbols_known x hx

variable {c : ParseCall} {project : Project}

theorem unitTypeIn_append {u : ArgumentUnit} (known : u ∈ argumentUnits) {arguments : List String}
    (sized : arguments.length = u.size) (more : List String) :
    unitTypeIn project u (arguments ++ more) = unitTypeIn project u arguments := by
  have pointerSize : ∀ v ∈ argumentUnits, (v.code == pointerCode) = true → v.size = 2 := by
    decide +kernel
  rw [unitTypeIn, unitTypeIn]
  split
  · next pointer =>
    have filled : arguments ≠ [] := by
      rintro rfl
      rw [pointerSize u known pointer] at sized
      cases sized
    rw [head?_append_of_ne_nil _ filled]
  · rfl

theorem decoded_groupEnd {p q : Progress} {s t : Session} {slots : List Slot}
    {outer : List (List Slot)} (opened : p.groups = ⟨slots :: outer⟩) {remaining : List Char}
    {ps : List Parameter} (h : Decodes c project p s [(.groupEnd, remaining)] ps q t) :
    Places ⟨outer⟩ [Item.tupleType (slots.map Slot.type)] ps q.groups ∧
      q.argumentIndex = p.argumentIndex := by
  obtain ⟨made, hend, rfl⟩ := decodes_singleton h
  obtain ⟨slots', outer', slot, hopen, hslot, place, index⟩ := decodeSymbol_groupEnd hend
  rw [opened] at hopen
  cases hopen
  cases slots with
  | nil => cases hslot
  | cons first rest =>
    cases hslot
    exact ⟨place, index⟩

mutual

-- Both inductions are on the items; arguments that an item does not use are left for the next.

theorem decoded_item (item : Item) {p q : Progress} {s t : Session}
    {xs : List (Symbol × List Char)} {ps : List Parameter} {more : List String}
    (read : xs.map Prod.fst = item.symbols)
    (h : Decodes c project p s xs ps q t)
    (arguments : c.arguments.drop p.argumentIndex = item.arguments ++ more) :
    ∃ type, item.type? project = some type ∧ Places p.groups [type] ps q.groups ∧
      c.arguments.drop q.argumentIndex = more := by
  cases item with
  | unit u known own sized =>
    obtain ⟨⟨_, remaining⟩, rfl, rfl⟩ := map_eq_singleton_iff.mp read
    obtain ⟨made, hunit, rfl⟩ := decodes_singleton h
    obtain ⟨type, htype, place, index⟩ := decodeSymbol_unit hunit
    rw [arguments, Item.arguments, unitTypeIn_append known sized] at htype
    refine ⟨type, htype, place, ?_⟩
    rw [index, ← drop_drop, arguments, Item.arguments, ← sized, drop_left]
  | group first rest =>
    obtain ⟨⟨_, remaining⟩, _, rfl, rfl, inside⟩ := map_eq_cons_iff.mp read
    obtain ⟨xs₁, _, rfl, read₁, later⟩ := map_eq_append_iff.mp inside
    obtain ⟨xs₂, _, rfl, read₂, last⟩ := map_eq_append_iff.mp later
    obtain ⟨⟨_, remaining'⟩, rfl, rfl⟩ := map_eq_singleton_iff.mp last
    obtain ⟨made, m, u, _, hstart, hinside, rfl⟩ := decodes_cons.mp h
    obtain ⟨ps₁, m₁, u₁, _, h₁, hlater, rfl⟩ := decodes_append.mp hinside
    obtain ⟨ps₂, m₂, u₂, ps₃, h₂, hend, rfl⟩ := decodes_append.mp hlater
    obtain ⟨rfl, hgroups, index⟩ := decodeSymbol_groupStart hstart
    rw [← index, Item.arguments, append_assoc] at arguments
    obtain ⟨type, htype, place₁, arguments⟩ := decoded_item first read₁ h₁ arguments
    obtain ⟨types, htypes, place₂, arguments⟩ := decoded_items rest read₂ h₂ arguments
    have slotted := place₁.append place₂
    rw [hgroups] at slotted
    obtain ⟨empty, slots, hslots, opened⟩ := slotted.of_open
    obtain ⟨place, index⟩ := decoded_groupEnd opened hend
    refine ⟨Item.tupleType (type :: types), ?_, ?_, ?_⟩
    · rw [Item.type?, htype, htypes]
      rfl
    · rw [← append_assoc ps₁, empty]
      rw [nil_append, hslots] at place
      exact place
    · rw [index, arguments]

theorem decoded_items (items : List Item) {p q : Progress} {s t : Session}
    {xs : List (Symbol × List Char)} {ps : List Parameter} {more : List String}
    (read : xs.map Prod.fst = symbolsOf items)
    (h : Decodes c project p s xs ps q t)
    (arguments : c.arguments.drop p.argumentIndex = argumentsOf items ++ more) :
    ∃ types, types? project items = some types ∧ Places p.groups types ps q.groups ∧
      c.arguments.drop q.argumentIndex = more := by
  cases items with
  | nil =>
    obtain rfl := map_eq_nil_iff.mp read
    obtain ⟨rfl, rfl, -⟩ := decodes_nil.mp h
    exact ⟨[], rfl, .none _, arguments⟩
  | cons item items =>
    obtain ⟨xs₁, xs₂, rfl, read₁, read₂⟩ := map_eq_append_iff.mp read
    obtain ⟨ps₁, m, u, ps₂, h₁, h₂, rfl⟩ := decodes_append.mp h
    rw [argumentsOf, append_assoc] at arguments
    obtain ⟨type, htype, place₁, arguments⟩ := decoded_item item read₁ h₁ arguments
    obtain ⟨types, htypes, place₂, arguments⟩ := decoded_items items read₂ h₂ arguments
    refine ⟨type :: types, ?_, place₁.append place₂, arguments⟩
    rw [types?, htype, htypes]
    rfl

end

theorem decoded_switch {p q : Progress} {s t : Session} {x : Symbol}
    (switch : x = .optional ∨ x = .keywordOnly ∨ x = .unknown) {remaining : List Char}
    {ps : List Parameter} (h : Decodes c project p s [(x, remaining)] ps q t) :
    Places p.groups [] ps q.groups ∧ q.argumentIndex = p.argumentIndex := by
  obtain ⟨made, hx, rfl⟩ := decodes_singleton h
  obtain ⟨rfl, hgroups, index⟩ := decodeSymbol_switch switch hx
  rw [hgroups]
  exact ⟨.none _, index⟩

theorem decoded_entries (entries : List Entry) {p q : Progress} {s t : Session}
    {xs : List (Symbol × List Char)} {ps : List Parameter} {more : List String}
    (read : xs.map Prod.fst = entries.flatMap Entry.symbols)
    (h : Decodes c project p s xs ps q t)
    (arguments : c.arguments.drop p.argumentIndex =
      argumentsOf (entries.filterMap Entry.item?) ++ more) :
    ∃ types, types? project (entries.filterMap Entry.item?) = some types ∧
      Places p.groups types ps q.groups := by
  induction entries generalizing p s xs ps with
  | nil =>
    obtain rfl := map_eq_nil_iff.mp read
    obtain ⟨rfl, rfl, -⟩ := decodes_nil.mp h
    exact ⟨[], rfl, .none _⟩
  | cons entry entries ih =>
    obtain ⟨xs₁, xs₂, rfl, read₁, read₂⟩ := map_eq_append_iff.mp read
    obtain ⟨ps₁, m, u, ps₂, h₁, h₂, rfl⟩ := decodes_append.mp h
    cases entry with
    | optional | keywordOnly =>
      obtain ⟨⟨_, remaining⟩, rfl, rfl⟩ := map_eq_singleton_iff.mp read₁
      obtain ⟨place₁, index⟩ := decoded_switch (by simp) h₁
      rw [← index] at arguments
      obtain ⟨types, htypes, place₂⟩ := ih read₂ h₂ arguments
      exact ⟨types, htypes, place₁.append place₂⟩
    | item i =>
      have items : (Entry.item i :: entries).filterMap Entry.item? =
        i :: entries.filterMap Entry.item? := rfl
      rw [items, argumentsOf, append_assoc] at arguments
      obtain ⟨type, htype, place₁, arguments⟩ := decoded_item i read₁ h₁ arguments
      obtain ⟨types, htypes, place₂⟩ := ih read₂ h₂ arguments
      refine ⟨type :: types, ?_, place₁.append place₂⟩
      rw [items, types?, htype, htypes]
      rfl

def IsHintedBy (project : Project) (item : Item) (parameter : Parameter) : Prop :=
  ∃ type, item.type? project = some type ∧ parameter.hint = TypeHint.ofList? [type]

theorem forall₂_isHintedBy {items : List Item} {types : List String} {ps : List Parameter}
    (htypes : types? project items = some types)
    (hints : ps.map Parameter.hint = types.map fun type => TypeHint.ofList? [type]) :
    List.Forall₂ (IsHintedBy project) items ps := by
  induction items generalizing types ps with
  | nil =>
    cases htypes
    rw [map_eq_nil_iff.mp hints]
    exact .nil
  | cons item items ih =>
    rw [types?] at htypes
    obtain ⟨type, htype, hothers⟩ := Option.bind_eq_some_iff.mp htypes
    obtain ⟨types', hrest, hcons⟩ := Option.bind_eq_some_iff.mp hothers
    cases hcons
    obtain ⟨parameter, ps', rfl, hhint, hhints⟩ := map_eq_cons_iff.mp hints
    exact .cons ⟨type, htype, hhint⟩ (ih hrest hhints)

/-- A format whose decoding ends without a fault and without a missing type makes one parameter for
each item, annotated with the type of the item. Each unit is decoded when the arguments of all units
before it are used. -/
theorem decodes_written {c : ParseCall} {project : Project} {entries : List Entry}
    {ending : List Char} (ends : IsEnding ending) (format : c.format = written entries ending)
    {lead more : List String} (start : lead.length = c.style.firstIndex)
    (arguments : c.arguments = lead ++ (argumentsOf (entries.filterMap Entry.item?) ++ more))
    {s t : Session} {ps : List Parameter} {last : Progress}
    (finished : Decodes c project (.initial c) s (symbols c.format) ps last t) :
    (parameters c).run project s = (.ok ps, t) ∧
      List.Forall₂ (IsHintedBy project) (entries.filterMap Entry.item?) ps ∧
      (symbols c.format).map Prod.fst = entries.flatMap Entry.symbols ∧
      ∀ before u remaining after, symbols c.format = before ++ (.unit u, remaining) :: after →
        ∃ done p s' later, Decodes c project (.initial c) s before done p s' ∧
          Decodes c project p s' ((.unit u, remaining) :: after) later last t ∧
          p.argumentIndex = c.style.firstIndex + argumentCount before := by
  have read : (symbols c.format).map Prod.fst = entries.flatMap Entry.symbols := by
    rw [format]
    exact map_symbols_written entries ends
  have aligned : c.arguments.drop (Progress.initial c).argumentIndex =
      argumentsOf (entries.filterMap Entry.item?) ++ more := by
    rw [arguments, Progress.initial, ← start, drop_left]
  refine ⟨run_bind_eq_ok.mpr ⟨(ps, some last), t, finished, rfl⟩, ?_, read, ?_⟩
  · obtain ⟨types, htypes, place⟩ := decoded_entries entries read finished aligned
    cases hlast : last.groups
    rw [hlast, show (Progress.initial c).groups = ⟨[]⟩ from rfl] at place
    cases place with
    | outside hints => exact forall₂_isHintedBy htypes hints
  · intro before u remaining after split
    rw [split] at finished
    obtain ⟨done, p, s', later, hbefore, hafter, -⟩ := decodes_append.mp finished
    exact ⟨done, p, s', later, hbefore, hafter, decodes_argumentIndex hbefore⟩

def isDecoded (c : ParseCall) (project : Project) : Bool :=
  match (decodeFrom c (.initial c) (symbols c.format)).run project {} with
  | (.ok (_, some _), _) => true
  | _ => false

theorem exists_decodes_of_isDecoded {c : ParseCall} {project : Project}
    (h : isDecoded c project = true) :
    ∃ ps last t, Decodes c project (.initial c) {} (symbols c.format) ps last t := by
  rw [isDecoded] at h
  split at h
  · next ps last t run => exact ⟨ps, last, t, run⟩
  · cases h

def spanEntries : List Entry := [
  .item (.unit ⟨"s#", "str", 2⟩ (by decide) ["span->text", "span->size"] rfl),
  .item (.group (.unit ⟨"O!", "typing.Any", 2⟩ (by decide) ["PyUnicode_Type", "span->owner"] rfl)
    [.group (.unit ⟨"i", "int", 1⟩ (by decide) ["span->from"] rfl)
      [.unit ⟨"i", "int", 1⟩ (by decide) ["span->to"] rfl]]),
  .optional,
  .item (.unit ⟨"d", "float", 1⟩ (by decide) ["span->scale"] rfl),
  .keywordOnly,
  .item (.unit ⟨"p", "bool", 1⟩ (by decide) ["span->closed"] rfl)]

def spanCall : ParseCall where
  text := "PyArg_ParseTuple(args, format)"
  arguments := ["args", "format", "span->text", "span->size", "PyUnicode_Type", "span->owner",
    "span->from", "span->to", "span->scale", "span->closed"]
  format := "s#(O!(ii))|d$p:span"
  keywords := []
  style := positionalStyle
  declarations := ""
  firstNumber := 1
  path := ⟨["src", "SpanPy.xml"]⟩

def bareProject : Project := .empty

/-- Eight arguments come before those of the third item: two that are not received, and those of
the units before, in groups or not. -/
theorem decodes_written_span : ∃ ps last t,
    Decodes spanCall bareProject (.initial spanCall) {} (symbols spanCall.format) ps last t ∧
      List.Forall₂ (IsHintedBy bareProject) (spanEntries.filterMap Entry.item?) ps ∧
      types? bareProject (spanEntries.filterMap Entry.item?) =
        some ["str", "tuple[str, tuple[int, int]]", "float", "bool"] ∧
      ∃ done p s', Decodes spanCall bareProject (.initial spanCall) {}
        ((symbols spanCall.format).take 9) done p s' ∧ p.argumentIndex = 8 := by
  obtain ⟨ps, last, t, finished⟩ : ∃ ps last t,
      Decodes spanCall bareProject (.initial spanCall) {} (symbols spanCall.format) ps last t :=
    exists_decodes_of_isDecoded (by decide +kernel)
  have ends : IsEnding ":span".toList := by
    rintro c ⟨⟩
    rfl
  have format : spanCall.format = written spanEntries ":span".toList := by decide +kernel
  have start : ["args", "format"].length = spanCall.style.firstIndex := rfl
  have arguments : spanCall.arguments =
      ["args", "format"] ++ (argumentsOf (spanEntries.filterMap Entry.item?) ++ []) := rfl
  have split : symbols spanCall.format = (symbols spanCall.format).take 9 ++
      (.unit ⟨"d", "float", 1⟩, "d$p:span".toList) :: (symbols spanCall.format).drop 10 := by
    decide +kernel
  obtain ⟨-, hints, -, cursor⟩ := decodes_written ends format start arguments finished
  obtain ⟨done, p, s', -, before, -, index⟩ := cursor _ _ _ _ split
  have size : spanCall.style.firstIndex + argumentCount ((symbols spanCall.format).take 9) = 8 := by
    decide +kernel
  exact ⟨ps, last, t, finished, hints, by decide +kernel, done, p, s', before, index.trans size⟩

end BindingStubs.Format
