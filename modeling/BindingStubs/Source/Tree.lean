import BindingStubs.Fault
import BindingStubs.OrderedSet
import BindingStubs.Source.Comments
import BindingStubs.Source.Decode

set_option autoImplicit false

/-!
# Source trees

Files by path. A directory exists if some file lies in it. Listings are in the order in
which the file system gives them, by default ascending by the parts of the paths.
-/

namespace BindingStubs

/-! ## Paths

A relative path as the list of its parts. The extension of a name starts at its last dot, unless
that is the first or the last character. -/

structure Path where
  parts : List String
  deriving DecidableEq, Repr

namespace Path

def text (p : Path) : String :=
  match p.parts with
  | [] => "."
  | "/" :: rest => "/" ++ Text.join "/" rest
  | parts => Text.join "/" parts

def described (p : Path) : String := "PosixPath(" ++ Text.quoted p.text ++ ")"

def name (p : Path) : String := p.parts.getLastD ""

/-- The root of all paths has no name. -/
def isNamed (p : Path) : Bool := p.parts.getLast?.any (· != "/")

def parent (p : Path) : Path := ⟨p.parts.dropLast⟩

/-- The parts of a written path; empty parts and single dots say nothing. -/
def ofText (s : String) : Path := ⟨(Text.split s "/").filter fun part => !part.isEmpty && part != "."⟩

/-- A written path taken from a directory; one that starts at the root replaces it. -/
def join (p : Path) (s : String) : Path :=
  if Text.startsWith s "/" then ⟨"/" :: (ofText s).parts⟩ else ⟨p.parts ++ (ofText s).parts⟩

def cutName (name : String) : String × String :=
  match Chars.lastIndex? name.toList ['.'] with
  | some i =>
    if 0 < i && i + 1 < name.toList.length then (Text.first name i, Text.after name i) else (name, "")
  | none => (name, "")

def stem (p : Path) : String := (cutName p.name).1

def suffix (p : Path) : String := (cutName p.name).2

def withName (p : Path) (name : String) : Path := ⟨p.parts.dropLast ++ [name]⟩

def withSuffix (p : Path) (suffix : String) : Path := p.withName (p.stem ++ suffix)

def withStem (p : Path) (stem : String) : Path := p.withName (stem ++ p.suffix)

def precedes : List String → List String → Bool
  | [], _ => true
  | _ :: _, [] => false
  | a :: p, b :: q => if a == b then precedes p q else Text.precedes a b

def relativeTo (p base : Path) : Path := ⟨p.parts.drop base.parts.length⟩

end Path

/-- The files of a tree, and the order in which its file system lists paths. -/
structure SourceTree where
  files : List (Path × List UInt8)
  listing : Listing (List String) := .sortedBy Path.precedes

namespace SourceTree

def root : Path := ⟨["src"]⟩

def isFileAt (t : SourceTree) (parts : List String) : Bool :=
  t.files.any fun entry => entry.1.parts == parts

/-- Whether the parts lead to a directory. The working directory holds the root. -/
def isDirectoryAt (t : SourceTree) (parts : List String) : Bool :=
  parts.isEmpty || parts == root.parts ||
    t.files.any fun entry => parts.length < entry.1.parts.length && parts.isPrefixOf entry.1.parts

/-- The parts without steps upwards. Every part but the last must lead to a directory, from which
the next one starts; nothing is known of what lies above the working directory. -/
def locate (t : SourceTree) : (place : List String) → List String → Except Fault (List String)
  | place, [] => .ok place
  | place, part :: rest =>
    if !t.isDirectoryAt place then .error (if t.isFileAt place then .notADirectory else .noSuchFile)
    else if part != ".." then t.locate (place ++ [part]) rest
    else if place.isEmpty then .error .noSuchFile
    else t.locate place.dropLast rest

def isDirectory (t : SourceTree) (p : Path) : Bool :=
  match t.locate [] p.parts with
  | .ok place => t.isDirectoryAt place
  | .error _ => false

def has (t : SourceTree) (p : Path) : Bool :=
  match t.locate [] p.parts with
  | .ok place => t.isFileAt place || t.isDirectoryAt place
  | .error _ => false

def octets (t : SourceTree) (p : Path) : Except Fault (List UInt8) := do
  let place ← t.locate [] p.parts
  match t.files.find? fun entry => entry.1.parts == place with
  | some (_, found) => return found
  | none => throw (if t.isDirectoryAt place then .isDirectory else .noSuchFile)

def read (t : SourceTree) (p : Path) : Except Fault String := do
  return String.ofList (Source.stripComments (Source.decode (← t.octets p)))

def below (t : SourceTree) (directory : Path) : List (List String) :=
  match t.locate [] directory.parts with
  | .error _ => []
  | .ok place =>
    let inside := (t.files.map fun entry => entry.1.parts).filter fun parts =>
      place.length < parts.length && place.isPrefixOf parts
    (inside.flatMap fun parts =>
      (List.range (parts.length - place.length)).map fun i =>
        directory.parts ++ (parts.drop place.length).take (i + 1)).eraseDups

def withEnding (t : SourceTree) (directory : Path) (ending : String) : List Path :=
  let found := (t.below directory).filter fun parts => Text.endsWith (parts.getLastD "") ending
  (t.listing.list found).map Path.mk

def cppFiles (t : SourceTree) (directory : Path) : List Path := t.withEnding directory ".cpp"

def xmlFiles (t : SourceTree) (directory : Path) : List Path := t.withEnding directory ".xml"

def entries (t : SourceTree) (directory : Path) : Except Fault (List Path) := do
  let place ← t.locate [] directory.parts
  if t.isDirectoryAt place then
    let found := (t.below directory).filter fun parts => parts.length == directory.parts.length + 1
    return (t.listing.list found).map Path.mk
  else throw (if t.isFileAt place then .notADirectory else .noSuchFile)

end SourceTree

end BindingStubs
