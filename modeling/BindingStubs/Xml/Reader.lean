import BindingStubs.Xml.Token

set_option autoImplicit false

/-! # Reading XML documents -/

namespace BindingStubs.Xml

/-! ## XML elements

An element with its attributes, the text before its first child, and its children. Text after a
child is not kept. -/

inductive Element where
  | node (tag : String) (attributes : List (String × String)) (text : String)
      (children : List Element)

namespace Element

def tag : Element → String
  | .node tag _ _ _ => tag

def attributes : Element → List (String × String)
  | .node _ attributes _ _ => attributes

def text : Element → String
  | .node _ _ text _ => text

def children : Element → List Element
  | .node _ _ _ children => children

def attribute? (e : Element) (name : String) : Option String :=
  (e.attributes.find? (fun entry => entry.1 == name)).map Prod.snd

def childrenNamed (e : Element) (tag : String) : List Element :=
  e.children.filter fun c => c.tag == tag

def child? (e : Element) (tag : String) : Option Element := (e.childrenNamed tag).head?

mutual

def descendants (tag : String) : Element → List Element
  | .node _ _ _ children => descendantsIn tag children

def descendantsIn (tag : String) : List Element → List Element
  | [] => []
  | c :: rest =>
    (if c.tag == tag then [c] else []) ++ descendants tag c ++ descendantsIn tag rest

end

/-- The text of the documentation of an element: that of the first `UserDocu` at any depth below a
`Documentation` child. -/
def documentation (e : Element) : String :=
  match (e.childrenNamed "Documentation").flatMap (descendants "UserDocu") with
  | [] => ""
  | d :: _ => d.text

def directDocumentation (e : Element) : String :=
  match (e.childrenNamed "Documentation").flatMap (·.childrenNamed "UserDocu") with
  | [] => ""
  | d :: _ => d.text

end Element

/-- An open element: its written name, what is known of it, and the namespaces in scope. Children
are newest first. -/
structure Frame where
  written : List Char
  tag : String
  attributes : List (String × String)
  text : List Char
  children : List Element
  scope : List (List Char × List Char)

def Frame.close (f : Frame) : Element :=
  .node f.tag f.attributes (String.ofList f.text) f.children.reverse

/-- Text counts only before the first child. -/
def Frame.addText (f : Frame) (cs : List Char) : Frame :=
  if f.children.isEmpty then { f with text := f.text ++ cs } else f

def extendScope (scope : List (List Char × List Char)) :
    List (List Char × List Char) → Option (List (List Char × List Char))
  | [] => some scope
  | (name, value) :: rest => do
    let scope ← extendScope scope rest
    if name == "xmlns".toList then some (([], value) :: scope)
    else match Chars.cutFirst? name [':'] with
      | some (['x', 'm', 'l', 'n', 's'], local_) =>
        if value.isEmpty then none else some ((local_, value) :: scope)
      | _ => some scope

def isDeclaration (name : List Char) : Bool :=
  name == "xmlns".toList || Chars.startsWith name "xmlns:".toList

/-- A written name with its namespace; an attribute without one has none. -/
def expand? (scope : List (List Char × List Char)) (isTag : Bool) (name : List Char) :
    Option String :=
  let qualified (uri local_ : List Char) : String :=
    if uri.isEmpty then String.ofList local_ else String.ofList ('\x7b' :: uri ++ '\x7d' :: local_)
  match Chars.split name [':'] with
  | [local_] =>
    if isTag then
      match scope.find? (fun entry => entry.1.isEmpty) with
      | some (_, uri) => some (qualified uri local_)
      | none => some (String.ofList local_)
    else some (String.ofList local_)
  | [space, local_] =>
    if space.isEmpty || local_.isEmpty then none
    else if space == "xml".toList then
      some (String.ofList ("xml:".toList ++ local_))
    else (scope.find? (fun entry => entry.1 == space)).map fun (_, uri) => qualified uri local_
  | _ => none

def expandAll? (scope : List (List Char × List Char)) :
    List (List Char × List Char) → Option (List (String × String))
  | [] => some []
  | (name, value) :: rest => do
    let more ← expandAll? scope rest
    if isDeclaration name then some more
    else
      let name ← expand? scope false name
      if more.any (fun entry => entry.1 == name) then none
      else some ((name, String.ofList value) :: more)

def place (e : Element) (stack : List Frame) : List Frame × Option Element :=
  match stack with
  | [] => ([], some e)
  | f :: outer => ({ f with children := e :: f.children } :: outer, none)

def buildLoop : List Frame → Option Element → List Token → Option Element
  | [], some root, [] => some root
  | _, _, [] => none
  | stack, root, .chars cs :: rest =>
    match stack with
    | f :: outer => buildLoop (f.addText cs :: outer) root rest
    | [] => if cs.all isXmlSpace then buildLoop [] root rest else none
  | stack, root, .quoted cs :: rest =>
    match stack with
    | f :: outer => buildLoop (f.addText cs :: outer) root rest
    | [] => none
  | stack, root, .opened name attributes closed :: rest => do
    if stack.isEmpty && root.isSome then none
    let outerScope := match stack with
      | f :: _ => f.scope
      | [] => []
    let scope ← extendScope outerScope attributes
    let tag ← expand? scope true name
    let expanded ← expandAll? scope attributes
    let frame : Frame :=
      { written := name, tag := tag, attributes := expanded, text := [], children := [], scope := scope }
    if closed then
      let (stack, done) := place frame.close stack
      buildLoop stack (root.or done) rest
    else buildLoop (frame :: stack) root rest
  | stack, root, .closing name :: rest =>
    match stack with
    | f :: outer =>
      if f.written == name then
        let (stack, done) := place f.close outer
        buildLoop stack (root.or done) rest
      else none
    | [] => none

def read (octets : List UInt8) : Except Fault Element := do
  let cs ← decode octets
  orMalformed ((tokens? (Source.lineFeeds [] cs)).bind (buildLoop [] none))

end BindingStubs.Xml
