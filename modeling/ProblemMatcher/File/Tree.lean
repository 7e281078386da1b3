import ProblemMatcher.File.Path
import ProblemMatcher.Text.Lines
import ProblemMatcher.Text.Utf8

/-!
# File trees

A tree lists contents by the names that lead to them from its root, and has a working directory.
What lies on the way to an entry or to the working directory is a directory. A path is followed name
by name, from the working directory or, if it is absolute, from the root; a double dot leads up.

Permissions, links and failures of a device are left out: whatever is in a tree may be entered and
read.
-/

namespace ProblemMatcher

inductive Content
  | file (bytes : List UInt8)
  | directory
  deriving Repr, DecidableEq

structure FileTree where
  entries : List (List String × Content) := []
  workingDirectory : List String := []
  deriving Repr, DecidableEq

inductive FileFault
  | notFound
  | notDirectory
  | isDirectory
  | nameTooLong
  deriving Repr, DecidableEq

/-- Why the text of a file cannot be had. -/
inductive ReadFault
  | file (fault : FileFault) (path : Path)
  | nulInPath
  | notUtf8 (fault : Text.Utf8Fault)
  deriving Repr, DecidableEq

namespace FileFault

def number : FileFault → Nat
  | .notFound => 2
  | .notDirectory => 20
  | .isDirectory => 21
  | .nameTooLong => 36

def text : FileFault → String
  | .notFound => "No such file or directory"
  | .notDirectory => "Not a directory"
  | .isDirectory => "Is a directory"
  | .nameTooLong => "File name too long"

def message (fault : FileFault) (path : Path) : String :=
  s!"[Errno {fault.number}] {fault.text}: {Text.quoted path.toString}"

end FileFault

namespace ReadFault

def message : ReadFault → String
  | .file fault path => fault.message path
  | .nulInPath => "embedded null byte"
  | .notUtf8 fault => fault.message

end ReadFault

namespace FileTree

/-- The working directory as an absolute path. -/
def currentDirectory (t : FileTree) : Path where
  root := "/"
  names := t.workingDirectory

/-- What is at a place of the tree. -/
def at? (t : FileTree) (place : List String) : Option Content :=
  match t.entries.lookup place with
  | some content => some content
  | none =>
    if place.isPrefixOf t.workingDirectory || t.entries.any fun (other, _) => place.isPrefixOf other
    then some .directory
    else none

/-- The longest name a file may have, in bytes. -/
def maxNameBytes : Nat := 255

/-- The longest path that can be followed, in bytes. -/
def maxPathBytes : Nat := 4095

/-- Follows names from a place; gives the place they lead to and what is there. -/
def follow (t : FileTree) : List String → List String → Except FileFault (List String × Content)
  | place, [] => match t.at? place with
    | some content => .ok (place, content)
    | none => .error .notFound
  | place, name :: rest =>
    match t.at? place with
    | some .directory =>
      if name = ".." then follow t place.dropLast rest
      else if maxNameBytes < name.utf8ByteSize then .error .nameTooLong
      else follow t (place ++ [name]) rest
    | some (.file _) => .error .notDirectory
    | none => .error .notFound

/-- The place that a path leads to and what is there. -/
def resolve (t : FileTree) (p : Path) : Except FileFault (List String × Content) :=
  if maxPathBytes < p.toString.utf8ByteSize then .error .nameTooLong
  else t.follow (if p.isAbsolute then [] else t.workingDirectory) p.names

def hasNul (p : Path) : Bool :=
  p.names.any fun name => name.toList.contains '\x00'

/-- Whether a path leads to a file. Only a name that is too long is a fault. -/
def isFile (t : FileTree) (p : Path) : Except FileFault Bool :=
  if hasNul p then .ok false
  else match t.resolve p with
    | .ok (_, .file _) => .ok true
    | .error .nameTooLong => .error .nameTooLong
    | _ => .ok false

def readBytes (t : FileTree) (p : Path) : Except ReadFault (List UInt8) :=
  if hasNul p then .error .nulInPath
  else match t.resolve p with
    | .ok (_, .file bytes) => .ok bytes
    | .ok (_, .directory) => .error (.file .isDirectory p)
    | .error fault => .error (.file fault p)

/-- The text of a file, with every line break a line feed. -/
def readText (t : FileTree) (p : Path) : Except ReadFault (List Char) :=
  match t.readBytes p with
  | .error fault => .error fault
  | .ok bytes =>
    match Text.decodeUtf8 bytes with
    | .ok text => .ok (Text.normalizeBreaks text)
    | .error fault => .error (.notUtf8 fault)

end FileTree

end ProblemMatcher
