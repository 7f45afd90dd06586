import BindingStubs.Proofs.Format.Items
import BindingStubs.Proofs.Format.Names

set_option autoImplicit false

/-! # Order of defaults and kinds -/

namespace BindingStubs.Format

open List

variable {c : ParseCall} {p q : Progress}

def Slot.isDefaulted (slot : Slot) : Bool := !slot.default.isAbsent

theorem Slot.isSome_toDefault? (slot : Slot) :
    slot.default.toDefault?.isSome = slot.isDefaulted := by
  unfold Slot.isDefaulted
  cases slot.default <;> rfl

theorem SlotDefault.isAbsent_of_isUnknown {d : SlotDefault} (h : d.isUnknown = true) :
    d.isAbsent = false := by
  cases d with
  | unknown => rfl
  | absent | known => cases h

variable {slot : Slot}

theorem Slot.isDefaulted_ofGroup {slots : List Slot} (h : Slot.ofGroup slots = .ok slot) :
    slot.isDefaulted = slots.any Slot.isDefaulted := by
  have counted : slots.any Slot.isDefaulted = !slots.all fun s => s.default.isAbsent := by
    rw [not_all_eq_any_not]
    rfl
  cases slots with
  | nil => cases h
  | cons first rest =>
    cases h
    rw [counted, Slot.isDefaulted, Slot.commonDefault]
    split
    · next unknown =>
      rw [all_cons, Bool.and_eq_true] at unknown
      rw [all_cons, SlotDefault.isAbsent_of_isUnknown unknown.1]
      rfl
    · split
      · next absent => rw [absent, SlotDefault.isAbsent]
      · next given =>
        rw [Bool.not_eq_true] at given
        rw [given]
        rfl

/-- The slots so far in the order of their units: placed ones, then those of open groups, the
outermost first. -/
def slotsSoFar (done : List Placement) (p : Progress) : List Slot :=
  done.map Placement.slot ++ p.groups.open_.reverse.flatten

theorem slotsSoFar_of_open {slots : List Slot} {outer : List (List Slot)}
    (opened : p.groups.open_ = slots :: outer) (done : List Placement) :
    slotsSoFar done p = slotsSoFar done { p with groups := ⟨outer⟩ } ++ slots := by
  simp [slotsSoFar, opened]

variable {m : Option Placement}

theorem Placed.slotsSoFar (h : Placed p slot m q) (done : List Placement) :
    slotsSoFar (done ++ m.toList) q = slotsSoFar done p ++ [slot] := by
  cases h with
  | inside opened => simp [Format.slotsSoFar, opened]
  | outside closed => simp [Format.slotsSoFar, closed]

theorem Placed.switches (h : Placed p slot m q) :
    q.optional = p.optional ∧ q.kind = p.kind ∧ ∀ placement ∈ m, placement.kind = p.kind := by
  cases h with
  | inside => exact ⟨rfl, rfl, by simp⟩
  | outside => exact ⟨rfl, rfl, by simp⟩

/-- After a slot with a default all slots have one, those to come included. -/
structure DefaultsAscend (slots : List Slot) (optional : Bool) : Prop where
  pairwise : slots.Pairwise fun a b => a.isDefaulted = true → b.isDefaulted = true
  optional : ∀ slot ∈ slots, slot.isDefaulted = true → optional = true

theorem DefaultsAscend.concat {slots : List Slot} {optional : Bool}
    (h : DefaultsAscend slots optional) (later : optional = true → slot.isDefaulted = true) :
    DefaultsAscend (slots ++ [slot]) (optional || slot.isDefaulted) := by
  refine ⟨?_, ?_⟩
  · rw [pairwise_append]
    refine ⟨h.pairwise, pairwise_singleton _ _, fun a ha b hb given => ?_⟩
    rw [mem_singleton.mp hb]
    exact later (h.optional a ha given)
  · rw [forall_mem_append, forall_mem_singleton]
    refine ⟨fun a ha given => ?_, fun given => ?_⟩
    · rw [h.optional a ha given, Bool.true_or]
    · rw [given, Bool.or_true]

theorem DefaultsAscend.close {slots inner : List Slot} {optional : Bool}
    (h : DefaultsAscend (slots ++ inner) optional) (grouped : Slot.ofGroup inner = .ok slot) :
    DefaultsAscend (slots ++ [slot]) optional := by
  obtain ⟨outside, -, across⟩ := pairwise_append.mp h.pairwise
  have filled : inner ≠ [] := by
    rintro rfl
    cases grouped
  refine ⟨?_, ?_⟩
  · rw [pairwise_append]
    refine ⟨outside, pairwise_singleton _ _, fun a ha b hb given => ?_⟩
    obtain ⟨first, hfirst⟩ := exists_mem_of_ne_nil inner filled
    rw [mem_singleton.mp hb, Slot.isDefaulted_ofGroup grouped, any_eq_true]
    exact ⟨first, hfirst, across a ha first hfirst given⟩
  · rw [forall_mem_append, forall_mem_singleton]
    refine ⟨fun a ha => h.optional a (mem_append_left _ ha), fun given => ?_⟩
    rw [Slot.isDefaulted_ofGroup grouped, any_eq_true] at given
    obtain ⟨b, hb, given⟩ := given
    exact h.optional b (mem_append_right _ hb) given

variable {done : List Placement}

theorem Advances.defaultsAscend {x : Symbol} (h : Advances c p x m q)
    (ascend : DefaultsAscend (slotsSoFar done p) p.optional) :
    DefaultsAscend (slotsSoFar (done ++ m.toList) q) q.optional := by
  cases h with
  | groupStart => simpa [slotsSoFar, Groups.start] using ascend
  | optional | keywordOnly =>
    rw [Option.toList_none, append_nil]
    exact ⟨ascend.pairwise, fun _ _ _ => rfl⟩
  | unknown =>
    rw [Option.toList_none, append_nil]
    exact ascend
  | @groupEnd slots outer slot m q opened grouped placed =>
    rw [slotsSoFar_of_open opened] at ascend
    rw [placed.slotsSoFar, placed.switches.1]
    exact ascend.close grouped
  | @unit u type default m q defaulted placed =>
    have slots := placed.slotsSoFar done
    have optional := placed.switches.1
    change DefaultsAscend (slotsSoFar (done ++ m.toList) q) q.optional
    rw [slots, optional]
    refine ascend.concat fun optional => ?_
    rw [Slot.isDefaulted, defaulted optional]
    rfl

variable {before : List Symbol}

theorem Reached.defaultsAscend (h : Reached c before done p) :
    DefaultsAscend (slotsSoFar done p) p.optional := by
  induction h with
  | start => exact ⟨.nil, by simp [slotsSoFar, Progress.initial]⟩
  | step _ advances ih => exact advances.defaultsAscend ih

/-- Kinds never decrease, and the next one is not before those so far. -/
structure KindsAscend (c : ParseCall) (done : List Placement) (kind : ParameterKind) : Prop where
  pairwise : done.Pairwise fun a b => a.kind.rank ≤ b.kind.rank
  next : ∀ m ∈ done, m.kind.rank ≤ kind.rank
  placed : ∀ m ∈ done, m.kind = (Progress.initial c).kind ∨ m.kind = .keyword
  known : kind = (Progress.initial c).kind ∨ kind = .keyword

theorem rank_le_keyword {kind : ParameterKind}
    (h : kind = (Progress.initial c).kind ∨ kind = .keyword) :
    kind.rank ≤ ParameterKind.keyword.rank := by
  rcases h with rfl | rfl
  · rw [Progress.initial]
    cases c.keywords.isEmpty <;> simp [ParameterKind.rank]
  · exact Nat.le_refl _

theorem KindsAscend.append {kind : ParameterKind} (h : KindsAscend c done kind)
    (same : ∀ placement ∈ m, placement.kind = kind) : KindsAscend c (done ++ m.toList) kind := by
  cases m with
  | none =>
    rw [Option.toList_none, append_nil]
    exact h
  | some placement =>
    have own : placement.kind = kind := same placement rfl
    refine ⟨?_, ?_, ?_, h.known⟩
    · rw [Option.toList_some, pairwise_append]
      refine ⟨h.pairwise, pairwise_singleton _ _, fun a ha b hb => ?_⟩
      rw [mem_singleton.mp hb, own]
      exact h.next a ha
    · rw [Option.toList_some, forall_mem_append, forall_mem_singleton, own]
      exact ⟨h.next, Nat.le_refl _⟩
    · rw [Option.toList_some, forall_mem_append, forall_mem_singleton, own]
      exact ⟨h.placed, h.known⟩

theorem Reached.kindsAscend (h : Reached c before done p) : KindsAscend c done p.kind := by
  induction h with
  | start => exact ⟨.nil, by simp, by simp, .inl rfl⟩
  | @step before done p q x m reached advances ih =>
    cases advances with
    | groupStart | optional | unknown => exact ih.append (by simp)
    | keywordOnly =>
      rw [Option.toList_none, append_nil]
      exact ⟨ih.pairwise, fun m hm => rank_le_keyword (ih.placed m hm), ih.placed, .inr rfl⟩
    | groupEnd opened grouped placed =>
      rw [placed.switches.2.1]
      exact ih.append placed.switches.2.2
    | @unit u type default m q defaulted placed =>
      change KindsAscend c (done ++ m.toList) q.kind
      rw [placed.switches.2.1]
      exact ih.append placed.switches.2.2

def ParseCall.isImplicit (c : ParseCall) (number : Nat) : Bool :=
  ((c.keywordAt number).bind Parameter.implicitNumber?).isSome

theorem implicitNumber?_of_lead {name : String} (h : '.' ∉ lead name) :
    Parameter.implicitNumber? name = none := by
  rw [Parameter.implicitNumber?]
  split
  · next rest hname =>
    rw [lead, hname] at h
    exact absurd mem_cons_self h
  · rfl

theorem IsNameOf.isSome_implicitNumber? {number : Nat} {name : String}
    (h : IsNameOf c (offers c before) number name) :
    (Parameter.implicitNumber? name).isSome = c.isImplicit number := by
  rw [ParseCall.isImplicit]
  cases given : c.keywordAt number with
  | some keyword => rw [h.keyword keyword given, Option.bind_some]
  | none =>
    obtain ⟨receiver, offered, begins⟩ := h.offered given
    have plain := (isPlain_of_mem_offersFrom offered).notMem (d := '.') (by decide)
    rw [← begins] at plain
    rw [implicitNumber?_of_lead plain, Option.bind_none]

theorem rank_pos_of_isImplicit {number : Nat} (h : c.isImplicit number = true) {kind : ParameterKind}
    (known : kind = (Progress.initial c).kind ∨ kind = .keyword) : 0 < kind.rank := by
  have filled : c.keywords.isEmpty = false := by
    rw [ParseCall.isImplicit, ParseCall.keywordAt] at h
    cases keywords : c.keywords with
    | nil => simp [keywords] at h
    | cons => rfl
  rcases known with rfl | rfl
  · rw [Progress.initial, filled]
    exact Nat.zero_lt_one
  · decide

theorem Makes.exists_placement {ps : List Parameter} (h : Makes done ps) {i : Nat} {x : Parameter}
    (hx : ps[i]? = some x) : ∃ m, done[i]? = some m ∧ m.make = .ok x := by
  induction h generalizing i with
  | nil => cases hx
  | @cons m y done ps made _ ih =>
    cases i with
    | zero =>
      cases hx
      exact ⟨m, rfl, made⟩
    | succ i => exact ih hx

/-- A parameter at its place has the default and, unless it is unnamed, the kind of its slot. -/
structure IsMadeAt (c : ParseCall) (i : Nat) (m : Placement) (x : Parameter) : Prop where
  default : x.default.isSome = m.slot.isDefaulted
  kind : x.kind = if c.isImplicit i then .positional else m.kind

theorem Reached.isMadeAt (h : Reached c before done p) {ps : List Parameter} (makes : Makes done ps)
    {i : Nat} {x : Parameter} (hx : ps[i]? = some x) :
    ∃ m, done[i]? = some m ∧ IsMadeAt c i m x := by
  obtain ⟨m, hm, made⟩ := makes.exists_placement hx
  obtain ⟨-, default, -, kind⟩ := Parameter.make_parts made
  refine ⟨m, hm, ?_, ?_⟩
  · rw [default, Slot.isSome_toDefault?]
  · rw [kind, (h.named.placed i m hm).isSome_implicitNumber?]

theorem rel_of_pairwise {α : Type} {R : α → α → Prop} {xs : List α} (h : xs.Pairwise R) {i j : Nat}
    (before : i < j) {a b : α} (ha : xs[i]? = some a) (hb : xs[j]? = some b) : R a b := by
  obtain ⟨hi, rfl⟩ := List.getElem?_eq_some_iff.mp ha
  obtain ⟨hj, rfl⟩ := List.getElem?_eq_some_iff.mp hb
  exact pairwise_iff_getElem.mp h i j hi hj before

theorem pairwise_of_rel {α : Type} {R : α → α → Prop} {xs : List α}
    (h : ∀ (i j : Nat) a b, i < j → xs[i]? = some a → xs[j]? = some b → R a b) : xs.Pairwise R :=
  pairwise_iff_getElem.mpr fun i j hi hj before =>
    h i j _ _ before (getElem?_eq_getElem hi) (getElem?_eq_getElem hj)

section
variable {before : List Symbol} {done : List Placement} {ps : List Parameter} {i j : Nat}
  {a b : Parameter}

theorem Reached.default_of_default (h : Reached c before done p) (makes : Makes done ps)
    (lt : i < j) (ha : ps[i]? = some a) (hb : ps[j]? = some b) (given : a.default.isSome = true) :
    b.default.isSome = true := by
  obtain ⟨m, hm, madeA⟩ := h.isMadeAt makes ha
  obtain ⟨n, hn, madeB⟩ := h.isMadeAt makes hb
  have ascend := (pairwise_append.mp h.defaultsAscend.pairwise).1
  rw [madeA.default] at given
  rw [madeB.default]
  exact rel_of_pairwise (pairwise_map.mp ascend) lt hm hn given

theorem Reached.rank_le_iff (h : Reached c before done p) (makes : Makes done ps)
    (lt : i < j) (ha : ps[i]? = some a) (hb : ps[j]? = some b) :
    a.kind.rank ≤ b.kind.rank ↔ (c.isImplicit j = true → c.isImplicit i = true) := by
  obtain ⟨m, hm, madeA⟩ := h.isMadeAt makes ha
  obtain ⟨n, hn, madeB⟩ := h.isMadeAt makes hb
  have kinds := h.kindsAscend
  have ascend := rel_of_pairwise kinds.pairwise lt hm hn
  rw [madeA.kind, madeB.kind]
  cases implicitA : c.isImplicit i
  · cases implicitB : c.isImplicit j
    · simpa using ascend
    · have later := rank_pos_of_isImplicit implicitB (kinds.placed m (mem_of_getElem? hm))
      have unordered : ¬ m.kind.rank ≤ ParameterKind.positional.rank := Nat.not_le_of_lt later
      simpa using unordered
  · simp [ParameterKind.rank]

end

theorem Reached.orderly_iff {ps : List Parameter} (h : Reached c before done p)
    (makes : Makes done ps) :
    Signature.Orderly ps ↔ (ps.map Parameter.name).Nodup ∧
      ∀ i j, i < j → j < ps.length → c.isImplicit j = true → c.isImplicit i = true := by
  constructor
  · intro orderly
    refine ⟨orderly.names, fun i j lt hj => ?_⟩
    have outlines := pairwise_map.mp orderly.outlines
    have hi : i < ps.length := Nat.lt_trans lt hj
    rw [← h.rank_le_iff makes lt (getElem?_eq_getElem hi) (getElem?_eq_getElem hj)]
    exact (pairwise_iff_getElem.mp outlines i j hi hj lt).1
  · rintro ⟨names, implicit⟩
    refine ⟨pairwise_map.mpr (pairwise_of_rel fun i j a b lt ha hb => ?_), names⟩
    have hj : j < ps.length := (List.getElem?_eq_some_iff.mp hb).1
    refine ⟨(h.rank_le_iff makes lt ha hb).mpr (implicit i j lt hj), fun _ given _ => ?_⟩
    exact h.default_of_default makes lt ha hb given

/-- Parameters that a call parses: once one has a default, all later ones have; kinds never decrease
but where an unnamed argument follows a named one. So the parameters make a signature unless such an
argument is there or a name is repeated. -/
theorem parameters_inOrder {project : Project} {s t : Session} {ps : List Parameter}
    (h : (parameters c).run project s = (.ok ps, t)) :
    ps.Pairwise (fun a b => a.default.isSome = true → b.default.isSome = true) ∧
      (∀ i j a b, i < j → ps[i]? = some a → ps[j]? = some b →
        (a.kind.rank ≤ b.kind.rank ↔ (c.isImplicit j = true → c.isImplicit i = true))) ∧
      ((∃ signature, Signature.ofParameters ps = .ok signature) ↔
        (ps.map Parameter.name).Nodup ∧
          ∀ i j, i < j → j < ps.length → c.isImplicit j = true → c.isImplicit i = true) := by
  obtain ⟨before, done, p, -, reached, makes⟩ := reached_of_parameters h
  refine ⟨?_, ?_, ?_⟩
  · exact pairwise_of_rel fun i j a b => reached.default_of_default makes
  · exact fun i j a b => reached.rank_le_iff makes
  · rw [Signature.exists_ofParameters_iff, reached.orderly_iff makes]

def parsedOutline (c : ParseCall) : Option (List (String × ParameterKind × Bool)) :=
  ((parameters c).run bareProject {}).1.toOption.map (List.map fun a => (a.name, a.outline))

theorem exists_of_parsedOutline {xs : List (String × ParameterKind × Bool)}
    (h : parsedOutline c = some xs) :
    ∃ ps t, (parameters c).run bareProject {} = (.ok ps, t) ∧
      ps.map Parameter.name = xs.map Prod.fst ∧ ps.map Parameter.outline = xs.map Prod.snd := by
  rw [parsedOutline] at h
  obtain ⟨ps, parsed, rfl⟩ := Option.map_eq_some_iff.mp h
  rcases run : (parameters c).run bareProject {} with ⟨outcome, t⟩
  rw [run] at parsed
  cases outcome with
  | error fault => cases parsed
  | ok found =>
    cases parsed
    rw [map_map, map_map]
    exact ⟨ps, t, rfl, rfl, rfl⟩

def boxCall : ParseCall where
  text := "PyArg_ParseTupleAndKeywords(args, kw, format, names)"
  arguments := ["args", "kw", "format", "names", "owner", "box->width", "height", "depth", "scale",
    "closed"]
  format := "i(i(ii))|d$p:box"
  keywords := [".0", "size", "scale", "closed"]
  style := keywordStyle
  declarations := "int height = 3;"
  firstNumber := 1
  path := ⟨["src", "BoxPy.xml"]⟩

/-- The initial value inside the inner group makes the group and all that follows optional. -/
theorem parameters_inOrder_box : ∃ ps t, (parameters boxCall).run bareProject {} = (.ok ps, t) ∧
    ps.map Parameter.outline =
      [(.positional, false), (.flexible, true), (.flexible, true), (.keyword, true)] ∧
    ps.Pairwise (fun a b => a.default.isSome = true → b.default.isSome = true) ∧
    ∃ signature, Signature.ofParameters ps = .ok signature := by
  obtain ⟨ps, t, run, names, outlines⟩ := exists_of_parsedOutline
    (show parsedOutline boxCall = some [("implicit0", .positional, false),
      ("size", .flexible, true), ("scale", .flexible, true), ("closed", .keyword, true)] by
        decide +kernel)
  obtain ⟨defaults, -, legal⟩ := parameters_inOrder run
  have distinct : (ps.map Parameter.name).Nodup := by
    rw [names]
    decide
  have length : ps.length = 4 := by
    rw [← length_map Parameter.name, names]
    rfl
  have named : ∀ j < 4, 0 < j → boxCall.isImplicit j = false := by decide
  refine ⟨ps, t, run, outlines, defaults, legal.mpr ⟨distinct, fun i j lt hj implicit => ?_⟩⟩
  rw [named j (length ▸ hj) (Nat.zero_lt_of_lt lt)] at implicit
  cases implicit

def unnamedCall : ParseCall where
  text := "PyArg_ParseTupleAndKeywords(args, kw, format, names)"
  arguments := ["args", "kw", "format", "names", "x", "y"]
  format := "ii"
  keywords := ["a", ".0"]
  style := keywordStyle
  declarations := ""
  firstNumber := 1
  path := ⟨["App", "Code.cpp"]⟩

/-- Kinds can decrease, and then parameters with distinct names make no signature. -/
theorem kinds_decrease_unnamed : ∃ ps t,
    (parameters unnamedCall).run bareProject {} = (.ok ps, t) ∧
      ps.map Parameter.name = ["a", "implicit0"] ∧
      ps.map Parameter.outline = [(.flexible, false), (.positional, false)] ∧
      ∀ signature, Signature.ofParameters ps ≠ .ok signature := by
  obtain ⟨ps, t, run, names, outlines⟩ := exists_of_parsedOutline
    (show parsedOutline unnamedCall =
      some [("a", .flexible, false), ("implicit0", .positional, false)] by decide +kernel)
  refine ⟨ps, t, run, names, outlines, fun signature made => ?_⟩
  have ordered := ((Signature.exists_ofParameters_iff ps).mp ⟨signature, made⟩).outlines
  rw [outlines] at ordered
  revert ordered
  decide

end BindingStubs.Format
