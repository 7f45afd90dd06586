import BindingStubs.Fault
import BindingStubs.Pattern.Basic
import BindingStubs.Text.CharacterName.Basic

set_option autoImplicit false

/-!
# Written patterns

Reads the usual notation for text patterns.
-/

namespace BindingStubs.Pattern

/-! ## Items of written patterns

A written pattern is a list of items. Alternatives share what they have in common at their start,
and alternatives that are single characters make one character set. -/

/-- What may follow an item and what it may share: a repetition refuses places and other
repetitions, and only single characters, repeated captures and places are compared. -/
inductive ItemKind where
  | single
  | place
  | repeated
  | bundle
  deriving DecidableEq, Repr

structure Item where
  kind : ItemKind
  node : Node
  deriving DecidableEq, Repr

def sequence : List Item → Node
  | [] => .empty
  | [item] => item.node
  | item :: rest => .seq item.node (sequence rest)

def Item.isComparable (i : Item) : Bool := i.kind == .single || i.kind == .place

def sharedStart : List Item → List (List Item) → Nat
  | [], _ => 0
  | item :: rest, others =>
    if item.isComparable && others.all (fun o => o.head? == some item) then
      sharedStart rest (others.map List.tail) + 1
    else 0

def setItems? : List Item → Option (List ClassItem)
  | [⟨.single, .set s⟩] => if s.negated then none else some s.items
  | _ => none

def alternatives : List (List Item) → Node
  | [] => .empty
  | [items] => sequence items
  | items :: rest => .alt (sequence items) (alternatives rest)

def branch (folding : Text.Folding) (branches : List (List Item)) : Item :=
  match branches.mapM setItems? with
  | some sets => ⟨.single, .set { folding, items := sets.flatten.eraseDups }⟩
  | none => ⟨.bundle, alternatives branches⟩

def joined (folding : Text.Folding) : List (List Item) → List Item
  | [] => []
  | [items] => items
  | items :: others =>
    let shared := sharedStart items others
    items.take shared ++ [branch folding ((items :: others).map (List.drop shared))]

open BindingStubs.Text

structure Flags where
  /-- `.` also takes a line feed. -/
  dotAll : Bool := false
  /-- `^` and `$` also stand at the ends of lines. -/
  multiLine : Bool := false
  /-- White space and comments in the notation are left out. -/
  spaced : Bool := false
  anyCase : Bool := false
  /-- Kinds of characters and letter case are those of ASCII. -/
  ascii : Bool := false
  deriving Repr, DecidableEq

def Flags.folding (flags : Flags) : Folding :=
  if !flags.anyCase then .none else if flags.ascii then .ascii else .all

inductive Token where
  | plain (c : Char)
  | escaped (c : Char)
  /-- A backslash at the very end. -/
  | stray
  deriving Repr, DecidableEq

def tokens : List Char → List Token
  | [] => []
  | ['\\'] => [.stray]
  | '\\' :: c :: rest => .escaped c :: tokens rest
  | c :: rest => .plain c :: tokens rest

structure ReadState where
  rest : List Token
  next : Nat := 1
  names : List (String × Nat) := []
  opened : List Nat := []
  widths : List (Nat × Width) := []
  /-- While looking back: captures from this number on are not available. -/
  barred : Option Nat := none
  /-- The largest capture that a condition names by its number. -/
  highest : Nat := 0
  /-- The whole pattern is asked to go beyond ASCII. -/
  wide : Bool := false
  /-- The whole pattern must not repeat anything. -/
  once : Bool := false
  /-- Something is looked back over whose width is not fixed. -/
  unfixed : Bool := false
  flags : Flags := {}

abbrev Read := StateT ReadState (Except Fault)

namespace Read

def malformed {α : Type} : Read α := throw .malformedPattern

def peek : Read (Option Token) := return (← get).rest.head?

/-- Takes the next token. A stray backslash is found as soon as it comes next. -/
def take : Read Token := do
  match (← get).rest with
  | [] => malformed
  | t :: rest =>
    if rest.head? == some .stray then malformed
    modify ({ · with rest := rest })
    return t

def accept (c : Char) : Read Bool := do
  if (← peek) == some (.plain c) then
    let _ ← take
    return true
  else return false

def need (c : Char) : Read Unit := do
  if ← accept c then return else malformed

def takeWhile (has : Char → Bool) : List Token → Read (List Char)
  | [] => return []
  | .plain c :: rest =>
    if has c then do
      let _ ← take
      return c :: (← takeWhile has rest)
    else return []
  | _ => return []

def takeUpTo (n : Nat) (has : Char → Bool) : Read (List Char) := do
  takeWhile has ((← get).rest.take n)

/-- Everything before a closing character, which is taken too; it must not be empty. -/
def until_ (close : Char) : List Token → Read (List Char)
  | .plain c :: rest => do
    let _ ← take
    if c == close then return [] else return c :: (← until_ close rest)
  | .escaped c :: rest => do
    let _ ← take
    return '\\' :: c :: (← until_ close rest)
  | _ => malformed

def nameUpTo (close : Char) : Read String := do
  let name ← until_ close (← get).rest
  if isName name then return String.ofList name else malformed

end Read

def isHexDigit (c : Char) : Bool :=
  isAsciiDigit c || ('a' ≤ c && c ≤ 'f') || ('A' ≤ c && c ≤ 'F')

def isOctalDigit (c : Char) : Bool := '0' ≤ c && c ≤ '7'

def digitValue (c : Char) : Nat :=
  if isAsciiDigit c then c.toNat - 48
  else if isAsciiLower c then c.toNat - 87
  else c.toNat - 55

def numberOf (base : Nat) (digits : List Char) : Nat :=
  digits.foldl (fun n c => n * base + digitValue c) 0

/-- `n` hexadecimal digits as a code point. Eight digits may go beyond what a number can be. -/
def hexCode (n : Nat) : Read Nat := do
  let digits ← Read.takeUpTo n isHexDigit
  let code := numberOf 16 digits
  if digits.length != n then Read.malformed
  else if 0x80000000 ≤ code then throw .tooLarge
  else if 0x110000 ≤ code then Read.malformed
  else return code

def namedCode : Read Nat := do
  Read.need '\x7b'
  match CharacterName.code? (← Read.until_ '\x7d' (← get).rest) with
  | some code => return code
  | none => Read.malformed

def controlChar? : Char → Option Char
  | 'a' => some (Char.ofNat 7)
  | 'f' => some (Char.ofNat 12)
  | 'n' => some '\n'
  | 'r' => some '\r'
  | 't' => some '\t'
  | 'v' => some (Char.ofNat 11)
  | '\\' => some '\\'
  | _ => none

def kindOf? : Char → Option (CharKind × Bool)
  | 'd' => some (.digit, false)
  | 'D' => some (.digit, true)
  | 's' => some (.blank, false)
  | 'S' => some (.blank, true)
  | 'w' => some (.word, false)
  | 'W' => some (.word, true)
  | _ => none

def classOf? (flags : Flags) (c : Char) : Option ClassItem :=
  (kindOf? c).map fun (k, negated) => .kind k flags.ascii negated

def charItem (flags : Flags) (code : Nat) : Item :=
  ⟨.single, .set { folding := flags.folding, items := [.char code] }⟩

def checkAvailable (index : Nat) : Read Unit := do
  let s ← get
  match s.barred with
  | some limit => if s.opened.contains index || s.next ≤ index || limit ≤ index then Read.malformed
  | none => return

def againItem (index : Nat) : Read Item := do
  let s ← get
  if s.next ≤ index || index == 0 || s.opened.contains index then Read.malformed
  checkAvailable index
  return ⟨.single, .again index s.flags.folding ((s.widths.lookup index).getD (0, none))⟩

def readNumber (c : Char) : Read Item := do
  let flags := (← get).flags
  let second ← Read.takeUpTo 1 isAsciiDigit
  let third ← if (c :: second).length == 2 && (c :: second).all isOctalDigit
    then Read.takeUpTo 1 isOctalDigit else pure []
  if third.length == 1 then
    let code := numberOf 8 (c :: second ++ third)
    if code ≤ 255 then return charItem flags code else Read.malformed
  else againItem (numberOf 10 (c :: second))

def readEscape (c : Char) : Read Item := do
  let flags := (← get).flags
  match c with
  | 'A' => return ⟨.place, .textStart⟩
  | 'Z' => return ⟨.place, .textEnd⟩
  | 'b' => return ⟨.place, .wordEdge flags.ascii true⟩
  | 'B' => return ⟨.place, .wordEdge flags.ascii false⟩
  | 'x' => return charItem flags (← hexCode 2)
  | 'u' => return charItem flags (← hexCode 4)
  | 'U' => return charItem flags (← hexCode 8)
  | 'N' => return charItem flags (← namedCode)
  | '0' => return charItem flags (numberOf 8 (← Read.takeUpTo 2 isOctalDigit))
  | _ =>
    match controlChar? c, classOf? flags c with
    | some d, _ => return charItem flags d.toNat
    | none, some item => return ⟨.single, .set { folding := flags.folding, items := [item] }⟩
    | none, none =>
      if isAsciiDigit c then readNumber c
      else if isAsciiLetter c then Read.malformed
      else return charItem flags c.toNat

def readClassEscape (c : Char) : Read ClassItem := do
  match c with
  | 'b' => return .char 8
  | 'x' => return .char (← hexCode 2)
  | 'u' => return .char (← hexCode 4)
  | 'U' => return .char (← hexCode 8)
  | 'N' => return .char (← namedCode)
  | _ =>
    match controlChar? c, classOf? (← get).flags c with
    | some d, _ => return .char d.toNat
    | none, some item => return item
    | none, none =>
      if isOctalDigit c then
        let more ← Read.takeUpTo 2 isOctalDigit
        let code := numberOf 8 (c :: more)
        if code ≤ 255 then return .char code else Read.malformed
      else if isAsciiDigit c || isAsciiLetter c then Read.malformed
      else return .char c.toNat

def readClassToken : Token → Read ClassItem
  | .plain c => return .char c.toNat
  | .escaped c => readClassEscape c
  | .stray => Read.malformed

def readClassItems : (fuel : Nat) → List ClassItem → Read (List ClassItem)
  | 0, _ => Read.malformed
  | fuel + 1, items => do
    let t ← Read.take
    if t == .plain ']' && !items.isEmpty then return items.reverse.eraseDups
    let first ← readClassToken t
    if ← Read.accept '-' then
      let t ← Read.take
      if t == .plain ']' then return (.char '-'.toNat :: first :: items).reverse.eraseDups
      match first, ← readClassToken t with
      | .char lo, .char hi =>
        if hi < lo then Read.malformed else readClassItems fuel (.range lo hi :: items)
      | _, _ => Read.malformed
    else readClassItems fuel (first :: items)

def mostRounds : Nat := 4294967295

/-- A number of rounds. Numbers of more than 4300 digits are not read at all. -/
def roundsOf (digits : List Char) : Read Nat := do
  if 4300 < digits.length then throw .badValue
  else if mostRounds ≤ numberOf 10 digits then throw .tooLarge
  else return numberOf 10 digits

/-- The bounds written in braces, or `none` if the brace is an ordinary character. -/
def readBraces : Read (Option (Nat × Option Nat)) := do
  let s ← get
  if ← Read.accept '\x7d' then
    set s
    return none
  let all := s.rest.length
  let lo ← Read.takeUpTo all isAsciiDigit
  let hi ← if ← Read.accept ',' then Read.takeUpTo all isAsciiDigit else pure lo
  if ← Read.accept '\x7d' then
    let least ← roundsOf lo
    if hi.isEmpty then return some (least, none)
    else
      let most ← roundsOf hi
      if most < least then Read.malformed else return some (least, some most)
  else
    set s
    return none

def skipComment : List Token → Read Unit
  | [] => return
  | t :: rest => do
    let _ ← Read.take
    if t == .plain '\n' then return else skipComment rest

def skipRemark : List Token → Read Unit
  | [] => Read.malformed
  | t :: rest => do
    let _ ← Read.take
    if t == .plain ')' then return else skipRemark rest

def isSpacing (c : Char) : Bool := c == ' ' || (9 ≤ c.toNat && c.toNat ≤ 13)

/-- The letters of flags; `t` forbids repetitions and is for whole patterns only. -/
def flagLetters : List Char := ['i', 'm', 's', 'x', 'a', 'u', 't']

def alphabetLetters : List Char := ['a', 'u']

def readLetters : List Token → Read (List Char × Char)
  | [] => Read.malformed
  | _ :: rest => do
    match ← Read.take with
    | .plain c =>
      if flagLetters.contains c then
        let (letters, close) ← readLetters rest
        return (c :: letters, close)
      else return ([], c)
    | _ => Read.malformed

structure FlagChange where
  on : List Char
  off : List Char := []

def FlagChange.apply (change : FlagChange) (flags : Flags) : Flags :=
  let now (letter : Char) (before : Bool) : Bool :=
    (before || change.on.contains letter) && !change.off.contains letter
  { dotAll := now 's' flags.dotAll
    multiLine := now 'm' flags.multiLine
    spaced := now 'x' flags.spaced
    anyCase := now 'i' flags.anyCase
    ascii := (flags.ascii || change.on.contains 'a') && !change.on.contains 'u' }

/-- Flags after a question mark: for the whole pattern if a bracket closes them, or for a group.
Only one alphabet can be chosen, and none can be switched off. -/
def readFlags : Read (Bool × FlagChange) := do
  let (on, close) ← readLetters (← get).rest
  if alphabetLetters.all on.contains then Read.malformed
  match close with
  | ')' => if on.isEmpty then Read.malformed else return (true, { on })
  | ':' => if on.isEmpty || on.contains 't' then Read.malformed else return (false, { on })
  | '-' =>
    let (off, close) ← readLetters (← get).rest
    if off.isEmpty || close != ':' || off.any ('t' :: alphabetLetters ++ on).contains ||
        on.contains 't' then
      Read.malformed
    else return (false, { on, off })
  | _ => Read.malformed

def openGroup (name : Option String) : Read Nat := do
  let s ← get
  match name with
  | some name =>
    if s.names.any (fun entry => entry.1 == name) then Read.malformed
    else set { s with next := s.next + 1, names := s.names ++ [(name, s.next)],
                      opened := s.next :: s.opened }
  | none => set { s with next := s.next + 1, opened := s.next :: s.opened }
  return s.next

def closeGroup (index : Nat) (body : Node) : Read Unit :=
  modify fun s =>
    { s with opened := s.opened.filter (· != index), widths := (index, body.width) :: s.widths }

inductive Opening where
  | captured (name : Option String)
  | grouped
  | flagged (change : FlagChange)
  | looking (ahead wanted : Bool)
  | atomic
  | given (index : Nat)
  | done (item : Option Item)

def wholeNumber? : (started : Bool) → (n : Nat) → List Char → Option Nat
  | started, n, [] => if started then some n else none
  | started, n, '_' :: c :: rest =>
    if started then (decimalValue? c).bind fun d => wholeNumber? true (10 * n + d) rest else none
  | _, n, c :: rest => (decimalValue? c).bind fun d => wholeNumber? true (10 * n + d) rest

def writtenNumber? (cs : List Char) : Option Nat :=
  match Chars.trim cs with
  | '+' :: rest => wholeNumber? false 0 rest
  | rest => wholeNumber? false 0 rest

/-- The number or name of a capture in a condition. Whether a numbered one exists is only known at
the end of the pattern. -/
def conditionIndex (written : List Char) : Read Nat := do
  let s ← get
  let index ← if isName written then
      match s.names.lookup (String.ofList written) with
      | some index => pure index
      | none => Read.malformed
    else match writtenNumber? written with
      | some index =>
        if index == 0 then Read.malformed
        modify ({ · with highest := max s.highest index })
        pure index
      | none => Read.malformed
  checkAvailable index
  return index

/-- Reads what follows an opening bracket up to the start of its contents. `atStart` allows flags
for the whole pattern. -/
def readOpening (atStart : Bool) : Read Opening := do
  unless ← Read.accept '?' do return .captured none
  match ← Read.take with
  | .plain 'P' =>
    if ← Read.accept '<' then return .captured (some (← Read.nameUpTo '>'))
    Read.need '='
    let name ← Read.nameUpTo ')'
    match (← get).names.lookup name with
    | some index => return .done (some (← againItem index))
    | none => Read.malformed
  | .plain ':' => return .grouped
  | .plain '#' =>
    skipRemark (← get).rest
    return .done none
  | .plain '=' => return .looking true true
  | .plain '!' => return .looking true false
  | .plain '<' =>
    match ← Read.take with
    | .plain '=' => return .looking false true
    | .plain '!' => return .looking false false
    | _ => Read.malformed
  | .plain '>' => return .atomic
  | .plain '(' => return .given (← conditionIndex (← Read.until_ ')' (← get).rest))
  | t =>
    modify fun s => { s with rest := t :: s.rest }
    let (whole, change) ← readFlags
    if !whole then return .flagged change
    else if !atStart then Read.malformed
    else
      modify fun s => { s with
        flags := { change.apply s.flags with ascii := s.flags.ascii || change.on.contains 'a' }
        wide := s.wide || change.on.contains 'u'
        once := s.once || change.on.contains 't' }
      return .done none

inductive Written where
  | item (i : Item)
  | group (items : List Item)

def Written.items : Written → List Item
  | .item i => [i]
  | .group items => items

def itemsOf (read : List Written) : List Item := read.reverse.flatMap Written.items

/-- What a repetition applies to must be neither a place nor a repetition. -/
def repeatable? : List Written → Option (Node × List Written)
  | .item ⟨.single, node⟩ :: rest | .item ⟨.bundle, node⟩ :: rest => some (node, rest)
  | .group items :: rest => some (sequence items, rest)
  | _ => none

def repeatLast (read : List Written) (least : Nat) (most : Option Nat) : Read (List Written) := do
  let some (node, rest) := repeatable? read | Read.malformed
  let repeated (greed : Greed) : List Written :=
    .item ⟨.repeated, .rounds node least most greed⟩ :: rest
  if ← Read.accept '?' then return repeated .least
  if ← Read.accept '+' then return repeated .keep
  return repeated .most

def deepestNesting : Nat := 490

/-- The width of what is looked back over. That it is fixed is only asked for in the end. -/
def fixedWidth (body : Node) : Read Nat := do
  let (lo, hi) := body.width
  if hi != some lo || mostRounds < lo then modify ({ · with unfixed := true })
  return lo

mutual

def readAlternatives : (fuel depth : Nat) → (first : Bool) → Read (List (List Item))
  | 0, _, _ => Read.malformed
  | fuel + 1, depth, first => do
    if deepestNesting < depth then throw .tooDeep
    let head ← readItems fuel depth (first && depth == 0) []
    if ← Read.accept '|' then return head :: (← readAlternatives fuel depth false)
    else return [head]

def readInside : (fuel depth : Nat) → Read (List Item)
  | 0, _ => Read.malformed
  | fuel + 1, depth => do
    let flags := (← get).flags
    let branches ← readAlternatives fuel (depth + 1) false
    Read.need ')'
    return joined flags.folding branches

/-- One alternative; `read` is what has been read so far, the last item first. -/
def readItems : (fuel depth : Nat) → (first : Bool) → (read : List Written) → Read (List Item)
  | 0, _, _, _ => Read.malformed
  | fuel + 1, depth, first, read => do
    let flags := (← get).flags
    match ← Read.peek with
    | none | some (.plain '|') | some (.plain ')') => return itemsOf read
    | some (.escaped c) =>
      let _ ← Read.take
      readItems fuel depth first (.item (← readEscape c) :: read)
    | some .stray => Read.malformed
    | some (.plain c) =>
      let _ ← Read.take
      let add (kind : ItemKind) (node : Node) : Read (List Item) :=
        readItems fuel depth first (.item ⟨kind, node⟩ :: read)
      if flags.spaced && isSpacing c then readItems fuel depth first read
      else if flags.spaced && c == '#' then
        skipComment (← get).rest
        readItems fuel depth first read
      else match c with
      | '.' =>
        add .single (.set { negated := true, items := if flags.dotAll then [] else [.char 10] })
      | '^' => add .place (if flags.multiLine then .lineStart else .textStart)
      | '$' => add .place (if flags.multiLine then .lineEnd else .lastLineEnd)
      | '*' => readItems fuel depth first (← repeatLast read 0 none)
      | '+' => readItems fuel depth first (← repeatLast read 1 none)
      | '?' => readItems fuel depth first (← repeatLast read 0 (some 1))
      | '\x7b' => match ← readBraces with
        | some (least, most) => readItems fuel depth first (← repeatLast read least most)
        | none => readItems fuel depth first (.item (charItem flags c.toNat) :: read)
      | '[' =>
        let negated ← Read.accept '^'
        let items ← readClassItems ((← get).rest.length + 1) []
        add .single (.set { negated, folding := flags.folding, items })
      | '(' =>
        match ← readOpening (first && read.isEmpty) with
        | .done none => readItems fuel depth first read
        | .done (some item) => readItems fuel depth first (.item item :: read)
        | .captured name =>
          let index ← openGroup name
          let body := sequence (← readInside fuel depth)
          closeGroup index body
          add .bundle (.capture index body)
        | .grouped => readItems fuel depth first (.group (← readInside fuel depth) :: read)
        | .flagged change =>
          modify ({ · with flags := change.apply flags })
          let body := sequence (← readInside fuel depth)
          modify ({ · with flags := flags })
          add .bundle body
        | .atomic => add .bundle (.atomic (sequence (← readInside fuel depth)))
        | .looking true wanted => add .bundle (.ahead wanted (sequence (← readInside fuel depth)))
        | .looking false wanted =>
          let barred := (← get).barred
          modify fun s => { s with barred := some (s.barred.getD s.next) }
          let body := sequence (← readInside fuel depth)
          modify ({ · with barred := barred })
          add .bundle (.behind wanted (← fixedWidth body) body)
        | .given index =>
          let yes ← readItems fuel (depth + 1) false []
          let no ← if ← Read.accept '|' then readItems fuel (depth + 1) false [] else pure []
          Read.need ')'
          add .bundle (.given index (sequence yes) (sequence no))
      | _ => readItems fuel depth first (.item (charItem flags c.toNat) :: read)

end

def read (flags : Flags) (written : String) : Except Fault Regex := do
  let ts := tokens written.toList
  if ts.head? == some .stray then throw .malformedPattern
  let (branches, s) ← (readAlternatives (3 * ts.length + 4) 0 true).run { rest := ts, flags := flags }
  if s.flags.ascii && s.wide then throw .badValue
  let node := sequence (joined s.flags.folding branches)
  if !s.rest.isEmpty || (s.highest != 0 && s.next ≤ s.highest) || s.unfixed ||
      (s.once && node.hasRounds) then
    throw .malformedPattern
  return { node, captures := s.next - 1, names := s.names }

/-- A pattern fixed in the program; a malformed one would match nothing. -/
def fixed (written : String) (flags : Flags := {}) : Regex :=
  match read flags written with
  | .ok r => r
  | .error _ => { node := .set { items := [] }, captures := 0, names := [] }

end BindingStubs.Pattern
