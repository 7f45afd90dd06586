import BindingStubs.Stub.Module

set_option autoImplicit false

/-!
# Import blocks and files

A module starts with its imports: those of the standard library, then all others, each block in
ascending order, then declarations of types in the order in which they came in. A module with text
becomes a file: a plain one, or the initial file of a package.
-/

namespace BindingStubs

/-! ## Modules of the standard library

Those of Python 3.11. Imports of these modules are listed before all others. -/

def standardModules : List String := [
  "__future__", "_abc", "_aix_support", "_ast", "_asyncio", "_bisect", "_blake2",
  "_bootsubprocess", "_bz2", "_codecs", "_codecs_cn", "_codecs_hk", "_codecs_iso2022",
  "_codecs_jp", "_codecs_kr", "_codecs_tw", "_collections", "_collections_abc", "_compat_pickle",
  "_compression", "_contextvars", "_crypt", "_csv", "_ctypes", "_curses", "_curses_panel",
  "_datetime", "_dbm", "_decimal", "_elementtree", "_frozen_importlib",
  "_frozen_importlib_external", "_functools", "_gdbm", "_hashlib", "_heapq", "_imp", "_io",
  "_json", "_locale", "_lsprof", "_lzma", "_markupbase", "_md5", "_msi", "_multibytecodec",
  "_multiprocessing", "_opcode", "_operator", "_osx_support", "_overlapped", "_pickle",
  "_posixshmem", "_posixsubprocess", "_py_abc", "_pydecimal", "_pyio", "_queue", "_random",
  "_scproxy", "_sha1", "_sha256", "_sha3", "_sha512", "_signal", "_sitebuiltins", "_socket",
  "_sqlite3", "_sre", "_ssl", "_stat", "_statistics", "_string", "_strptime", "_struct",
  "_symtable", "_thread", "_threading_local", "_tkinter", "_tokenize", "_tracemalloc", "_typing",
  "_uuid", "_warnings", "_weakref", "_weakrefset", "_winapi", "_zoneinfo", "abc", "aifc",
  "antigravity", "argparse", "array", "ast", "asynchat", "asyncio", "asyncore", "atexit",
  "audioop", "base64", "bdb", "binascii", "bisect", "builtins", "bz2", "cProfile", "calendar",
  "cgi", "cgitb", "chunk", "cmath", "cmd", "code", "codecs", "codeop", "collections", "colorsys",
  "compileall", "concurrent", "configparser", "contextlib", "contextvars", "copy", "copyreg",
  "crypt", "csv", "ctypes", "curses", "dataclasses", "datetime", "dbm", "decimal", "difflib",
  "dis", "distutils", "doctest", "email", "encodings", "ensurepip", "enum", "errno",
  "faulthandler", "fcntl", "filecmp", "fileinput", "fnmatch", "fractions", "ftplib", "functools",
  "gc", "genericpath", "getopt", "getpass", "gettext", "glob", "graphlib", "grp", "gzip",
  "hashlib", "heapq", "hmac", "html", "http", "idlelib", "imaplib", "imghdr", "imp", "importlib",
  "inspect", "io", "ipaddress", "itertools", "json", "keyword", "lib2to3", "linecache", "locale",
  "logging", "lzma", "mailbox", "mailcap", "marshal", "math", "mimetypes", "mmap",
  "modulefinder", "msilib", "msvcrt", "multiprocessing", "netrc", "nis", "nntplib", "nt",
  "ntpath", "nturl2path", "numbers", "opcode", "operator", "optparse", "os", "ossaudiodev",
  "pathlib", "pdb", "pickle", "pickletools", "pipes", "pkgutil", "platform", "plistlib",
  "poplib", "posix", "posixpath", "pprint", "profile", "pstats", "pty", "pwd", "py_compile",
  "pyclbr", "pydoc", "pydoc_data", "pyexpat", "queue", "quopri", "random", "re", "readline",
  "reprlib", "resource", "rlcompleter", "runpy", "sched", "secrets", "select", "selectors",
  "shelve", "shlex", "shutil", "signal", "site", "smtpd", "smtplib", "sndhdr", "socket",
  "socketserver", "spwd", "sqlite3", "sre_compile", "sre_constants", "sre_parse", "ssl", "stat",
  "statistics", "string", "stringprep", "struct", "subprocess", "sunau", "symtable", "sys",
  "sysconfig", "syslog", "tabnanny", "tarfile", "telnetlib", "tempfile", "termios", "textwrap",
  "this", "threading", "time", "timeit", "tkinter", "token", "tokenize", "tomllib", "trace",
  "traceback", "tracemalloc", "tty", "turtle", "turtledemo", "types", "typing", "unicodedata",
  "unittest", "urllib", "uu", "uuid", "venv", "warnings", "wave", "weakref", "webbrowser",
  "winreg", "winsound", "wsgiref", "xdrlib", "xml", "xmlrpc", "zipapp", "zipfile", "zipimport",
  "zlib", "zoneinfo"]

def isStandardModule (name : String) : Bool := standardModules.contains name

end BindingStubs

namespace BindingStubs.StubModule

inductive ImportLine where
  | standard (line : String)
  | other (line : String)
  | declaration (text : String)
  deriving DecidableEq, Repr

def declaresType (entry : String) : Bool :=
  Text.contains entry "TypeAlias" || Text.contains entry "TypeVar" ||
    Text.contains entry "TypedDict"

def placed (moduleName line : String) : ImportLine :=
  if isStandardModule moduleName then .standard line else .other line

def importLine (entry : String) : ImportLine :=
  if Text.startsWith entry "from " then
    placed (Text.before (Text.dropStart entry "from ") " ") entry
  else if Text.contains entry "\n" then .declaration ("\n" ++ entry ++ "\n")
  else if declaresType entry then .declaration entry
  else match Naming.moduleOfAlias? entry with
    | some moduleName => placed moduleName ("import " ++ moduleName ++ " as " ++ entry)
    | none => placed entry (if Text.contains entry "import" then entry else "import " ++ entry)

def standardLines (lines : List ImportLine) : List String :=
  lines.filterMap fun | .standard line => some line | _ => none

def otherLines (lines : List ImportLine) : List String :=
  lines.filterMap fun | .other line => some line | _ => none

def declarationLines (lines : List ImportLine) : List String :=
  lines.filterMap fun | .declaration text => some text | _ => none

def importBlock (imports : List String) : String :=
  let lines := imports.map importLine
  let blocks := [Text.join "\n" (Text.sorted (standardLines lines)),
    Text.join "\n" (Text.sorted (otherLines lines)), Text.join "\n" (declarationLines lines)]
  match blocks.filter fun block => !block.isEmpty with
  | [] => ""
  | blocks => Text.join "\n\n" blocks ++ "\n\n\n"

def fileText (m : StubModule) : String :=
  importBlock m.imports.toList ++ Text.trimEnd m.content ++ "\n"

end BindingStubs.StubModule

namespace BindingStubs

/-- Files by the parts of their paths, which start at the target directory. That directory may be
there before any file is. -/
structure StubFiles where
  files : List (List String × String) := []
  hasTarget : Bool := false

namespace StubFiles

def write (fs : StubFiles) (path : List String) (text : String) : StubFiles :=
  if fs.files.any (fun entry => entry.1 == path) then
    { fs with files := fs.files.map fun entry => if entry.1 == path then (path, text) else entry }
  else { fs with files := fs.files ++ [(path, text)] }

def touch (fs : StubFiles) (path : List String) : StubFiles :=
  if fs.files.any (fun entry => entry.1 == path) then fs
  else { fs with files := fs.files ++ [(path, "")] }

/-- A directory is there if a file lies in it; the target directory may be there without one. -/
def hasDirectory (fs : StubFiles) (path : List String) : Bool :=
  (path.isEmpty && fs.hasTarget) ||
    fs.files.any fun entry => path.length < entry.1.length && path.isPrefixOf entry.1

def entries (fs : StubFiles) : List (String × String) :=
  fs.files.map fun entry => (Text.join "/" entry.1, entry.2)

end StubFiles

namespace StubModule

def initialStem : String := "__init__"

def extension : String := ".pyi"

def initialFile : String := initialStem ++ extension

def nameParts (name : String) : List String :=
  (Text.split name "/").filter fun part => !part.isEmpty

/-- The file for a place. The place of the target directory itself has none inside it. -/
def fileFor (place : List String) : Option (List String) :=
  match place.getLast? with
  | none => none
  | some name => some (place.dropLast ++ [name ++ extension])

def saveText (m : StubModule) (place : List String) (fs : StubFiles) : StubFiles :=
  if m.content.isEmpty then fs
  else
    let place := if !m.children.isEmpty || m.isPackage then place ++ [initialStem] else place
    match fileFor place with
    | some path => fs.write path m.fileText
    | none => fs

mutual

def saveAt : StubModule → (place : List String) → StubFiles → StubFiles
  | .node content imports isPackage children, place, fs =>
    let below := saveAll children place fs
    let marked :=
      if !children.isEmpty && below.hasDirectory place then below.touch (place ++ [initialFile])
      else below
    saveText (.node content imports isPackage children) place marked

def saveAll : List (String × StubModule) → (place : List String) → StubFiles → StubFiles
  | [], _, fs => fs
  | (name, m) :: rest, place, fs => saveAll rest place (saveAt m (place ++ nameParts name) fs)

end

def save (root : StubModule) (fs : StubFiles) : StubFiles := root.saveAt [] fs

end StubModule

end BindingStubs
