import Flowchart.Text.Quoted

/-!
# Files

What the command needs to know of the machine it runs on: what a path names, and whether a file
can be written at a path.

A path is read part by part, the parts being what stands between slashes. It starts at the root
when it begins with a slash and at the working directory otherwise. An empty part and `.` stay
where they are, `..` goes one directory up (the root is its own parent), and any other part goes
to the entry of that name. Every part but the last must be read in a directory; the empty path
names nothing. Lengths count UTF-8 bytes: a path of `maxPathBytes` bytes or more is too long, and
so is a name of more than `maxNameBytes` bytes once it is looked up in a directory.

A file is written at a path in two steps. First the directory part of the path, all of it but
the last name, must lead to a directory. Then the last name must name a file or nothing: a path
that ends in slashes, that ends in `.` or `..`, or whose last name is a directory cannot be
written.
-/

namespace Flowchart

/-- What a path names. -/
inductive Entry where
  | directory
  | file (contents : String)
  deriving DecidableEq, Repr

/-- Why a file cannot be read or written at a path. -/
inductive FileError where
  | noEntry
  | notDirectory
  | isDirectory
  | nameTooLong
  deriving DecidableEq, Repr

namespace FileError

def code : FileError → Nat
  | noEntry => 2
  | notDirectory => 20
  | isDirectory => 21
  | nameTooLong => 36

def text : FileError → String
  | noEntry => "No such file or directory"
  | notDirectory => "Not a directory"
  | isDirectory => "Is a directory"
  | nameTooLong => "File name too long"

/-- The error as the system reports it for a path. -/
def describe (e : FileError) (path : String) : String :=
  s!"[Errno {e.code}] {e.text}: " ++ Text.quoted path

end FileError

/-- The number of bytes of a text in UTF-8. -/
def byteLength (s : String) : Nat := (s.toList.map Char.utf8Size).foldr (· + ·) 0

/-- Every path is shorter than this many bytes. -/
def maxPathBytes : Nat := 4096

/-- No name in a directory is longer than this many bytes. -/
def maxNameBytes : Nat := 255

/-- A view of the files of a machine: what each path names, or why it names nothing. -/
structure Files where
  lookup : String → Except FileError Entry

namespace Files

def ofList (entries : List (String × Except FileError Entry)) : Files :=
  ⟨fun path => (entries.lookup path).getD (.error .noEntry)⟩

def exists? (files : Files) (path : String) : Bool :=
  match files.lookup path with
  | .ok _ => true
  | .error _ => false

def trimEnd (path : String) : List Char := (path.toList.reverse.dropWhile (· == '/')).reverse

def lastName (path : String) : String :=
  String.ofList ((trimEnd path).reverse.takeWhile (· != '/')).reverse

/-- The directory part of a path: once its trailing slashes are dropped, all of it up to and
with its last slash, or `.` when no slash is left. -/
def directoryOf (path : String) : String :=
  match (trimEnd path).reverse.dropWhile (· != '/') with
  | [] => "."
  | kept => String.ofList kept.reverse

/-- Why a file cannot be written at a path, if it cannot. -/
def writeError? (files : Files) (path : String) : Option FileError :=
  if maxPathBytes ≤ byteLength path then some .nameTooLong
  else
    match files.lookup (directoryOf path) with
    | .error e => some e
    | .ok (.file _) => some .notDirectory
    | .ok .directory =>
      let name := lastName path
      if name == "" || name == "." || name == ".." || (trimEnd path).length < path.length then
        some .isDirectory
      else
        match files.lookup path with
        | .ok .directory => some .isDirectory
        | .ok (.file _) | .error .noEntry => none
        | .error e => some e

end Files

/-- A tree of files: a file with its contents, or a directory with its named entries. -/
inductive Tree where
  | file (contents : String)
  | directory (entries : List (String × Tree))

namespace Tree

def entry : Tree → Entry
  | file contents => .file contents
  | directory _ => .directory

/-- Reads one part of a path from a directory, given with the directories above it, innermost
first. -/
def step (trail : List Tree) (part : String) : Except FileError (List Tree) :=
  match trail with
  | directory entries :: above =>
    if part == "" || part == "." then .ok trail
    else if part == ".." then .ok (if above.isEmpty then trail else above)
    else if maxNameBytes < byteLength part then .error .nameTooLong
    else
      match entries.lookup part with
      | some t => .ok (t :: trail)
      | none => .error .noEntry
  | _ => .error .notDirectory

def walk (trail : List Tree) (parts : List String) : Except FileError (List Tree) :=
  parts.foldlM step trail

end Tree

/-- A machine: its tree of files and the path of its working directory from the root. -/
structure Machine where
  root : Tree
  workingDirectory : List String

namespace Machine

/-- What a path names on the machine. -/
def lookup (m : Machine) (path : String) : Except FileError Entry :=
  match path.toList with
  | [] => .error .noEntry
  | cs =>
    if maxPathBytes ≤ byteLength path then .error .nameTooLong else
    let start := if cs.head? == some '/' then .ok [m.root]
      else Tree.walk [m.root] m.workingDirectory
    match start.bind fun trail => Tree.walk trail ((cs.splitOn '/').map String.ofList) with
    | .ok (t :: _) => .ok t.entry
    | .ok [] => .error .noEntry
    | .error e => .error e

def files (m : Machine) : Files := ⟨m.lookup⟩

end Machine

end Flowchart
