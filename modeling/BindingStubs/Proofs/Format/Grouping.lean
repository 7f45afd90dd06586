import BindingStubs.Format.Symbol
import BindingStubs.Proofs.Text.Search
import Mathlib.Data.List.Forall2

set_option autoImplicit false

/-! # Defaults of groups -/

namespace BindingStubs.Format

open List

inductive GroupStep where
  | start
  | add (s : Slot)
  | finish

/-- Takes steps one after another and lists the slots of the groups that are closed. -/
def Groups.run (g : Groups) : List GroupStep → Except Fault (List Slot × Groups)
  | [] => .ok ([], g)
  | .start :: steps => g.start.run steps
  | .add s :: steps => do (← g.add s).run steps
  | .finish :: steps => do
    let slot ← g.finish.1
    let (slots, last) ← g.finish.2.run steps
    return (slot :: slots, last)

/-- Steps that close every group they open, and none of them empty. The first list has the slots that
are added outside of these groups; the others are the elements of each group, in the order in which
the groups are closed. -/
inductive WellNested : List GroupStep → List Slot → List (List Slot) → Prop
  | nil : WellNested [] [] []
  | add (s : Slot) {steps : List GroupStep} {added : List Slot} {closed : List (List Slot)}
      (rest : WellNested steps added closed) : WellNested (.add s :: steps) (s :: added) closed
  | group {inside steps : List GroupStep} {elements added : List Slot}
      {inner closed : List (List Slot)} (filled : WellNested inside elements inner)
      (full : elements ≠ []) (rest : WellNested steps added closed) :
      WellNested (.start :: (inside ++ .finish :: steps)) added (inner ++ elements :: closed)

def GivesSlot (elements : List Slot) (slot : Slot) : Prop := Slot.ofGroup elements = .ok slot

def Groups.extend (g : Groups) (slots : List Slot) : Groups := ⟨g.open_.modifyHead (· ++ slots)⟩

theorem Groups.extend_nil (g : Groups) : g.extend [] = g := by
  obtain ⟨_ | ⟨inner, outer⟩⟩ := g
  · rfl
  · rw [extend, modifyHead_cons, append_nil]

theorem WellNested.exists_run {steps : List GroupStep} {added : List Slot}
    {closed : List (List Slot)} (h : WellNested steps added closed) {g : Groups}
    (hopen : added ≠ [] → g.open_ ≠ []) :
    ∃ slots, List.Forall₂ GivesSlot closed slots ∧ ∀ more others last,
      (g.extend added).run more = .ok (others, last) →
      g.run (steps ++ more) = .ok (slots ++ others, last) := by
  induction h generalizing g with
  | nil => exact ⟨[], .nil, fun more others last h => by rwa [g.extend_nil] at h⟩
  | add s rest ih =>
    obtain ⟨_ | ⟨inner, outer⟩⟩ := g
    · exact absurd rfl (hopen (cons_ne_nil _ _))
    · obtain ⟨slots, hslots, hrun⟩ := @ih ⟨(inner ++ [s]) :: outer⟩ fun _ => cons_ne_nil _ _
      refine ⟨slots, hslots, fun more others last h => hrun more others last ?_⟩
      simpa [Groups.extend] using h
  | @group inside steps elements added inner closed filled full rest ihFilled ihRest =>
    obtain ⟨slots, hslots, hinside⟩ := @ihFilled g.start fun _ => cons_ne_nil _ _
    obtain ⟨others, hothers, hrest⟩ := ihRest hopen
    obtain ⟨first, tail, rfl⟩ := exists_cons_of_ne_nil full
    refine ⟨slots ++ _ :: others, rel_append hslots (.cons rfl hothers),
      fun more third last h => ?_⟩
    rw [cons_append, append_assoc, append_assoc]
    refine hinside _ _ _ ?_
    change (do let (slots, last) ← g.run (steps ++ more); return (_ :: slots, last)) = _
    rw [hrest more third last h]
    rfl

def SlotDefault.valueText? : SlotDefault → Option String
  | absent => none
  | unknown => some "None"
  | known d => some d.text

structure SoundDefault (elements : List Slot) (d : SlotDefault) : Prop where
  absent : (∀ s ∈ elements, s.default = .absent) → d = .absent
  unknown : (∀ s ∈ elements, s.default = .unknown) → d = .unknown
  tuple : (∃ s ∈ elements, s.default ≠ .absent) → (∃ s ∈ elements, s.default ≠ .unknown) →
    d = .absent ∨ ∃ texts : List String,
      elements.map (fun s => s.default.valueText?) = texts.map some ∧
      d = .known (.expression
        ("(" ++ Text.join ", " texts ++ (if texts.length = 1 then ",)" else ")")))

def Mixed (elements : List Slot) : Prop :=
  (∃ s ∈ elements, s.default = .absent) ∧ ∃ s ∈ elements, s.default ≠ .absent

theorem tupleText_eq (texts : List String) :
    Slot.tupleText texts =
      "(" ++ Text.join ", " texts ++ (if texts.length = 1 then ",)" else ")") := by
  rcases texts with _ | ⟨t, _ | ⟨u, texts⟩⟩
  · rfl
  · simp [Slot.tupleText, Text.join]
  · simp [Slot.tupleText]

section
variable {elements : List Slot} {slot : Slot}

open Classical in
theorem GivesSlot.default_eq (h : GivesSlot elements slot) :
    slot.default =
      if ∀ s ∈ elements, s.default = .unknown then .unknown
      else if ∀ s ∈ elements, s.default = .absent then .absent
      else .known (.expression (Slot.tupleText (elements.map fun s => s.default.text))) := by
  have hunknown : ∀ d : SlotDefault, d.isUnknown = true ↔ d = .unknown := fun d => by
    cases d <;> simp [SlotDefault.isUnknown]
  have habsent : ∀ d : SlotDefault, d.isAbsent = true ↔ d = .absent := fun d => by
    cases d <;> simp [SlotDefault.isAbsent]
  cases elements with
  | nil => cases h
  | cons first rest =>
    cases h
    simp only [Slot.commonDefault, all_eq_true, hunknown, habsent]

theorem GivesSlot.soundDefault_iff (h : GivesSlot elements slot) :
    SoundDefault elements slot.default ↔ ¬ Mixed elements := by
  rw [h.default_eq]
  constructor
  · rintro ⟨-, -, htuple⟩ ⟨⟨s, hs, habsent⟩, t, ht, hpresent⟩
    have hunknown : s.default ≠ .unknown := by rw [habsent]; rintro ⟨⟩
    have hresult := htuple ⟨t, ht, hpresent⟩ ⟨s, hs, hunknown⟩
    rw [if_neg fun hall => hunknown (hall s hs), if_neg fun hall => hpresent (hall t ht)] at hresult
    obtain ⟨⟨⟩⟩ | ⟨texts, htexts, -⟩ := hresult
    -- an element without a default has no text
    have hnone : none ∈ texts.map some := by
      rw [← htexts, mem_map]
      exact ⟨s, hs, by rw [habsent]; rfl⟩
    simp at hnone
  · intro hmixed
    refine ⟨fun hall => ?_, fun hall => if_pos hall, fun ⟨t, ht, hpresent⟩ ⟨u, hu, hunknown⟩ => ?_⟩
    · cases elements with
      | nil => cases h
      | cons first rest =>
        have hknown : ¬ ∀ s ∈ first :: rest, s.default = .unknown := fun hunknown => by
          cases (hall first mem_cons_self).symm.trans (hunknown first mem_cons_self)
        rw [if_neg hknown, if_pos hall]
    · rw [if_neg fun hall => hunknown (hall u hu), if_neg fun hall => hpresent (hall t ht),
        tupleText_eq]
      refine .inr ⟨elements.map fun s => s.default.text, ?_, rfl⟩
      rw [map_map, map_inj_left]
      intro s hs
      rw [Function.comp_apply]
      cases hdefault : s.default with
      | absent => exact absurd ⟨⟨s, hs, hdefault⟩, t, ht, hpresent⟩ hmixed
      | unknown => rfl
      | known d => rfl

def missingMark : List Char := SlotDefault.absent.text.toList

def SlotDefault.ShowsMissing (d : SlotDefault) : Prop :=
  ∃ v, d = .known v ∧ missingMark <:+: v.text.toList

theorem infix_append_cons_iff {c : Char} {part front rest : List Char} (h : c ∉ part) :
    part <:+: front ++ c :: rest ↔ part <:+: front ∨ part <:+: rest := by
  constructor
  · intro hpart
    induction front with
    | nil =>
      refine (infix_cons_iff.1 hpart).imp_left fun hstarts => ?_
      exact (Chars.prefix_of_notMem h (hstarts : part <+: [] ++ c :: rest)).isInfix
    | cons d front ih =>
      rw [cons_append, infix_cons_iff] at hpart
      rcases hpart with hstarts | hinside
      · exact .inl (Chars.prefix_of_notMem h hstarts).isInfix
      · exact (ih hinside).imp_left fun hfront => hfront.trans (suffix_cons d front).isInfix
  · rintro (hfront | hrest)
    · exact hfront.trans (prefix_append _ _).isInfix
    · exact hrest.trans ((suffix_cons c rest).trans (suffix_append _ _)).isInfix

theorem missingMark_infix_join (texts : List String) :
    missingMark <:+: (Text.join ", " texts).toList ↔ ∃ t ∈ texts, missingMark <:+: t.toList := by
  induction texts with
  | nil => simp [Text.join, missingMark, SlotDefault.text]
  | cons t texts ih =>
    cases texts with
    | nil => simp [Text.join]
    | cons u texts =>
      have hjoin : (Text.join ", " (t :: u :: texts)).toList =
          t.toList ++ ',' :: ' ' :: (Text.join ", " (u :: texts)).toList := by
        simp [Text.join]
      have hblank : ¬ missingMark <+: ' ' :: (Text.join ", " (u :: texts)).toList :=
        fun hstarts => absurd (cons_prefix_cons.1 hstarts).1 (by decide)
      rw [hjoin, infix_append_cons_iff (by decide), infix_cons_iff, or_iff_right hblank, ih]
      simp

theorem missingMark_infix_tupleText (texts : List String) :
    missingMark <:+: (Slot.tupleText texts).toList ↔ ∃ t ∈ texts, missingMark <:+: t.toList := by
  have hend : ¬ missingMark <:+: [] ∧ ¬ missingMark <:+: [')'] := by decide
  have htext : (Slot.tupleText texts).toList = [] ++ '(' :: ((Text.join ", " texts).toList ++
      if texts.length = 1 then ',' :: [')'] else ')' :: []) := by
    rw [tupleText_eq]
    split <;> simp
  rw [htext, infix_append_cons_iff (by decide), or_iff_right hend.1, ← missingMark_infix_join]
  split
  · rw [infix_append_cons_iff (by decide), or_iff_left hend.2]
  · rw [infix_append_cons_iff (by decide), or_iff_left hend.1]

theorem GivesSlot.showsMissing_iff (h : GivesSlot elements slot) :
    slot.default.ShowsMissing ↔ Mixed elements ∨ ∃ s ∈ elements, s.default.ShowsMissing := by
  have htext : ∀ d : SlotDefault,
      missingMark <:+: d.text.toList ↔ d = .absent ∨ d.ShowsMissing := fun d => by
    cases d with
    | absent => exact iff_of_true infix_rfl (.inl rfl)
    | unknown => exact iff_of_false (by decide) (by rintro (⟨⟨⟩⟩ | ⟨v, ⟨⟩, -⟩))
    | known v => simp [SlotDefault.ShowsMissing, SlotDefault.text]
  rw [h.default_eq]
  split_ifs with hunknown habsent
  · refine iff_of_false (by rintro ⟨v, ⟨⟩, -⟩) ?_
    rintro (⟨⟨s, hs, h⟩, -⟩ | ⟨s, hs, v, h, -⟩) <;> cases (hunknown s hs).symm.trans h
  · refine iff_of_false (by rintro ⟨v, ⟨⟩, -⟩) ?_
    rintro (⟨-, s, hs, h⟩ | ⟨s, hs, v, h, -⟩)
    · exact h (habsent s hs)
    · cases (habsent s hs).symm.trans h
  · have hpresent : ∃ s ∈ elements, s.default ≠ .absent := by simpa using habsent
    rw [Mixed, and_iff_left hpresent, ← exists_or]
    simp only [← and_or_left, ← htext]
    simp [SlotDefault.ShowsMissing, missingMark_infix_tupleText, DefaultValue.text]

end

/-- All steps of a well-nested sequence can be taken, and each closed group gives a slot. Its default
is sound exactly if the group is not mixed, and shows the mark of a missing default exactly if the
group is mixed or an element shows it. -/
theorem closed_defaults {steps : List GroupStep} {closed : List (List Slot)}
    (h : WellNested steps [] closed) (g : Groups) :
    ∃ slots, g.run steps = .ok (slots, g) ∧
      List.Forall₂ (fun elements slot =>
        (SoundDefault elements slot.default ↔ ¬ Mixed elements) ∧
        (slot.default.ShowsMissing ↔ Mixed elements ∨ ∃ s ∈ elements, s.default.ShowsMissing))
        closed slots := by
  obtain ⟨slots, hslots, hrun⟩ := h.exists_run (g := g) fun hne => absurd rfl hne
  rw [g.extend_nil] at hrun
  refine ⟨slots, by simpa using hrun [] [] g rfl, ?_⟩
  exact hslots.imp fun _ _ hslot => ⟨hslot.soundDefault_iff, hslot.showsMissing_iff⟩

def bareSlot : Slot := ⟨"int", "a", .absent⟩

def givenSlot : Slot := ⟨"int", "b", .known (.literal (.int 2))⟩

def unknownSlot : Slot := ⟨"int", "c", .unknown⟩

def unknownGroup : Slot := ⟨"tuple[int]", "c", .unknown⟩

def nestedSteps : List GroupStep :=
  [.start, .add givenSlot, .start, .add unknownSlot, .finish, .add unknownGroup, .finish]

/-- A group within a group, where an unknown default meets a given one. -/
theorem closed_defaults_nested :
    WellNested nestedSteps [] [[unknownSlot], [givenSlot, unknownGroup]] ∧
    ∃ slots, ({} : Groups).run nestedSteps = .ok (slots, {}) ∧
      List.Forall₂ (fun elements slot => SoundDefault elements slot.default)
        [[unknownSlot], [givenSlot, unknownGroup]] slots := by
  have hnested : WellNested nestedSteps [] [[unknownSlot], [givenSlot, unknownGroup]] :=
    .group (.add _ (.group (.add _ .nil) (by simp) (.add _ .nil))) (by simp) .nil
  obtain ⟨slots, hrun, hslots⟩ := closed_defaults hnested {}
  have hplain : ¬ Mixed [unknownSlot] ∧ ¬ Mixed [givenSlot, unknownGroup] := by
    simp [Mixed, unknownSlot, givenSlot, unknownGroup]
  obtain _ | ⟨⟨hfirst, -⟩, _ | ⟨⟨hsecond, -⟩, ⟨⟩⟩⟩ := hslots
  exact ⟨hnested, _, hrun, .cons (hfirst.2 hplain.1) (.cons (hsecond.2 hplain.2) .nil)⟩

/-- In a group of an argument without a default and one with a default the mark is shown. -/
theorem mixed_default_shows_missing :
    ({} : Groups).run [.start, .add bareSlot, .add givenSlot, .finish] =
      .ok ([⟨"tuple[int, int]", "a_b", .known (.expression "(<class 'inspect._empty'>, 2)")⟩], {}) ∧
    ¬ SoundDefault [bareSlot, givenSlot] (.known (.expression "(<class 'inspect._empty'>, 2)")) := by
  have hslot : GivesSlot [bareSlot, givenSlot]
      ⟨"tuple[int, int]", "a_b", .known (.expression "(<class 'inspect._empty'>, 2)")⟩ := rfl
  refine ⟨rfl, ?_⟩
  rw [hslot.soundDefault_iff, not_not]
  simp [Mixed, bareSlot, givenSlot]

end BindingStubs.Format
