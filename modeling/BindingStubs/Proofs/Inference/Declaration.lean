import BindingStubs.Format.Decode
import BindingStubs.Inference.Variable
import BindingStubs.Proofs.Agreement
import BindingStubs.Proofs.Pattern.Reading
import Mathlib

set_option autoImplicit false

/-! # The patterns of declarations and assignments -/

namespace BindingStubs.Inference

open Pattern

def blankSet : CharSet := { items := [.kind .blank false false] }

def wordSet : CharSet := { items := [.kind .word false false] }

def markSet (c : Char) : CharSet := { items := [.char c.toNat] }

def valueSet : CharSet := { negated := true, items := [.char ';'.toNat] }

def typeStartSet : CharSet :=
  { negated := true, items := [.kind .digit false false, .kind .word false true] }

def typeSet : CharSet :=
  { items := [.kind .word false false, .char ':'.toNat, .char '<'.toNat, .char '>'.toNat,
      .char '*'.toNat, .kind .blank false false] }

def typeEndSet : CharSet := { items := [.char ':'.toNat, .kind .blank false false] }

def endSet : CharSet := { items := [.char ';'.toNat, .char ':'.toNat] }

def manyOfSet (s : CharSet) (atLeast : Nat) : Node := .rounds (.set s) atLeast none .most

def typeNode : Node :=
  .seq (.set typeStartSet) (.seq (manyOfSet typeSet 0) (.behind false 1 (.set typeEndSet)))

def earlierNode : Node :=
  .seq (.wordEdge false true) (.seq (manyOfSet wordSet 1) (.seq (manyOfSet blankSet 0)
    (.seq (.set (markSet ',')) (manyOfSet blankSet 0))))

def laterNode : Node :=
  .seq (.set (markSet ',')) (.seq (manyOfSet blankSet 0) (.seq (manyOfSet wordSet 1)
    (manyOfSet blankSet 0)))

def valueNode : Node :=
  .seq (.set (markSet '=')) (.seq (manyOfSet blankSet 0) (.capture 3 (manyOfSet valueSet 0)))

def argumentsNode : Node :=
  .seq (.set (markSet '(')) (.seq (.capture 4 (manyOfSet valueSet 1)) (.set (markSet ')')))

def directiveNode : Node := .capture 1 (.set (markSet '#'))

def startItems : List Item :=
  [⟨.repeated, .rounds directiveNode 0 (some 1) .most⟩, ⟨.bundle, .atomic (manyOfSet blankSet 0)⟩,
    ⟨.bundle, .capture 2 typeNode⟩, ⟨.repeated, manyOfSet blankSet 0⟩,
    ⟨.repeated, .rounds earlierNode 0 none .most⟩, ⟨.place, .wordEdge false true⟩]

def endItems : List Item :=
  [⟨.place, .wordEdge false true⟩, ⟨.repeated, manyOfSet blankSet 0⟩,
    ⟨.repeated, .rounds (.alt (.rounds laterNode 0 none .most) (.alt valueNode argumentsNode)) 0
      (some 1) .most⟩,
    ⟨.single, .set endSet⟩]

def declarationRegex (name : List Char) : Regex where
  node := sequence (startItems ++ literalItems {} name ++ endItems)
  captures := 4
  names := [("directive", 1), ("type", 2), ("value", 3), ("arguments", 4)]

def startText : String :=
  "(?P<directive>\\#)?(?>\\s*)(?P<type>[^\\d\\W][\\w:<>*\\s]*(?<![:\\s]))\\s*(?:\\b\\w+\\s*,\\s*)*\\b"

def endText : String :=
  "\\b\\s*(?:(?:,\\s*\\w+\\s*)*|=\\s*(?P<value>[^;]*)|\\((?P<arguments>[^;]+)\\))?[;:]"

def startState (rest : List Token) : ReadState :=
  { rest := rest, next := 3, names := [("directive", 1), ("type", 2)],
    widths := [(2, 1, none), (1, 1, some 1)] }

def endState : ReadState :=
  { rest := [], next := 5, names := [("directive", 1), ("type", 2), ("value", 3), ("arguments", 4)],
    widths := [(4, 1, none), (3, 0, none), (2, 1, none), (1, 1, some 1)] }

-- nine steps are enough for the part before the name, and the groups in it nest less deep than the
-- steps that are left
set_option maxRecDepth 100000 in
theorem readItems_startText (n : Nat) (c : Char) (rest : List Token) :
    (readItems (n + 89) 0 true []).run { rest := tokens startText.toList ++ .plain c :: rest } =
      (readItems (n + 80) 0 true (startItems.reverse.map .item)).run
        (startState (.plain c :: rest)) := by
  cbv

set_option maxRecDepth 100000 in
theorem readItems_endText (n : Nat) (read : List Written) :
    (readItems (n + 60) 0 true read).run (startState (tokens endText.toList)) =
      .ok (itemsOf (endItems.reverse.map .item ++ read), endState) := by
  cbv

theorem read_declarationPattern {name : String} (hne : name.toList ≠ [])
    (hname : ∀ c ∈ name.toList, c ∉ specialChars) :
    Pattern.read {} (declarationPattern name) = .ok (declarationRegex name.toList) := by
  have hsplit : ∀ rest, tokens (startText.toList ++ rest) =
      tokens startText.toList ++ tokens rest := by
    intro rest
    cbv
  exact read_between (startState []) hne hname (fun c hc => rfl) (by decide) hsplit (by decide)
    (by decide) readItems_startText (fun n => readItems_endText (n + 20)) rfl rfl rfl rfl rfl rfl

end BindingStubs.Inference

namespace BindingStubs.Format

open Pattern Inference

def edgeItem : Pattern.Item := ⟨.place, .wordEdge false true⟩

def assignedSet : CharSet := { negated := true, items := [.char ';'.toNat, .char ','.toNat] }

def assignmentItems : List Pattern.Item :=
  [edgeItem, ⟨.repeated, manyOfSet blankSet 0⟩, ⟨.single, .set (markSet '=')⟩,
    ⟨.repeated, manyOfSet blankSet 0⟩, ⟨.bundle, .capture 1 (manyOfSet assignedSet 0)⟩]

def assignmentRegex (name : List Char) : Regex where
  node := sequence ([edgeItem] ++ literalItems {} name ++ assignmentItems)
  captures := 1
  names := [("value", 1)]

def assignmentText : String := "\\b\\s*=\\s*(?P<value>[^;,]*)"

def assignmentState : ReadState :=
  { rest := [], next := 2, names := [("value", 1)], widths := [(1, 0, none)] }

theorem readItems_edge (n : Nat) (c : Char) (rest : List Token) :
    (readItems (n + 21) 0 true []).run { rest := tokens "\\b".toList ++ .plain c :: rest } =
      (readItems (n + 20) 0 true ([edgeItem].reverse.map .item)).run { rest := .plain c :: rest } := by
  cbv

set_option maxRecDepth 10000 in
theorem readItems_assignmentText (n : Nat) (read : List Written) :
    (readItems (n + 20) 0 true read).run { rest := tokens assignmentText.toList } =
      .ok (itemsOf (assignmentItems.reverse.map .item ++ read), assignmentState) := by
  cbv

theorem read_assignmentPattern {name : String} (hne : name.toList ≠ [])
    (hname : ∀ c ∈ name.toList, c ∉ specialChars) :
    Pattern.read {} ("\\b" ++ name ++ assignmentText) = .ok (assignmentRegex name.toList) := by
  have hsplit : ∀ rest, tokens ("\\b".toList ++ rest) = tokens "\\b".toList ++ tokens rest := by
    intro rest
    cbv
  exact read_between { rest := [] } hne hname (fun c hc => rfl) (by decide) hsplit (by decide)
    (by decide) readItems_edge readItems_assignmentText rfl rfl rfl rfl rfl rfl

theorem ends_assignedValues (project : Project) {name : String}
    (h : Text.isAlnumText name = true) (declarations : String) :
    ∃ values, Gen.Ends project (assignedValues name declarations) (.ok values) := by
  rw [Text.isAlnumText, Bool.and_eq_true, Bool.not_eq_true', List.all_eq_true] at h
  have filled : name.toList ≠ [] := by
    intro empty
    rw [String.toList_eq_nil_iff] at empty
    rw [empty] at h
    exact absurd h.1 (by decide)
  have plain : ∀ c ∈ name.toList, c ∉ specialChars := by
    intro c hc
    refine notMem_specialChars ?_
    rw [Text.isWord, h.2 c hc, Bool.true_or]
  have read := read_assignmentPattern filled plain
  refine ⟨((assignmentRegex name.toList).allMatches declarations).map fun m => m.group 1, fun s => ?_⟩
  rw [assignedValues, show "\\b\\s*=\\s*(?P<value>[^;,]*)" = assignmentText from rfl, read]
  rfl

end BindingStubs.Format
