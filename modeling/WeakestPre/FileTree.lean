import WeakestPre.Text.Quoted

/-!
# Files and paths

A file tree is a finite set of files and directories below one root, with a working directory.
Directories on the way to an entry exist along with it.

**Opening** a path follows the tree: every component on the way must be a directory that exists,
`..` leads to the parent of what was reached, and an empty component (as behind a trailing slash)
asks for a directory as `.` does.

**Absolute paths** are made from the text alone: `..` takes back the component before it.
-/

namespace WeakestPre

/-- The components of an absolute path. -/
abbrev Path := List String

namespace Path

/-- The components of a text, between its slashes. -/
def split (s : String) : List String :=
  (s.toList.splitOnP (· == '/')).map String.ofList

def isAbsolute (s : String) : Bool := s.toList.head? == some '/'

def text (p : Path) : String := "/" ++ "/".intercalate p

/-- The root in the absolute path of a text: two slashes at the front are kept, and no others. -/
def rootOf (s : String) : String :=
  if "//".toList.isPrefixOf s.toList && !"///".toList.isPrefixOf s.toList then "//" else "/"

/-- The text of a path behind a root. -/
def spelled (root : String) (p : Path) : String := root ++ "/".intercalate p

/-- One more component: `..` takes back the last one, and `.` or nothing changes nothing. -/
def resolve (p : Path) (component : String) : Path :=
  if component = "" ∨ component = "." then p
  else if component = ".." then p.dropLast
  else p ++ [component]

/-- Where the components of a text are followed from. -/
def origin (directory : Path) (s : String) : Path := if isAbsolute s then [] else directory

/-- The absolute path that a text names from a directory. -/
def absolute (directory : Path) (s : String) : Path := (split s).foldl resolve (origin directory s)

/-- A path and the paths above it, up to the root. -/
def ancestors (p : Path) : List Path := (List.range (p.length + 1)).reverse.map p.take

/-- The paths that are passed when components are followed. -/
def stops (p : Path) : List String → List Path
  | [] => [p]
  | c :: rest => p :: stops (p.resolve c) rest

end Path

inductive Entry where
  | file (bytes : List UInt8)
  /-- A file that the system does not open, with the number and the reason that it gives. -/
  | locked (number : Nat) (reason : String)
  | directory

/-- Why a path cannot be opened. -/
inductive FileError where
  | notFound
  | notADirectory
  | isADirectory
  | nameTooLong
  | other (number : Nat) (reason : String)
  deriving DecidableEq, Repr

namespace FileError

def reason : FileError → String
  | .notFound => "No such file or directory"
  | .notADirectory => "Not a directory"
  | .isADirectory => "Is a directory"
  | .nameTooLong => "File name too long"
  | .other _ reason => reason

def number : FileError → Nat
  | .notFound => 2
  | .notADirectory => 20
  | .isADirectory => 21
  | .nameTooLong => 36
  | .other number _ => number

/-- The error with its number and the path that was to be opened. -/
def message (e : FileError) (path : String) : String :=
  "[Errno " ++ toString e.number ++ "] " ++ e.reason ++ ": " ++ Text.quoted path

end FileError

structure FileTree where
  working : Path
  entries : List (Path × Entry)

namespace FileTree

/-- What stands at an absolute path. -/
def entryAt (t : FileTree) (p : Path) : Option Entry :=
  match t.entries.lookup p with
  | some e => some e
  | none =>
    if p.isPrefixOf t.working || t.entries.any fun entry => p.isPrefixOf entry.1 then
      some .directory
    else none

/-- The longest name that a component may have, in bytes. -/
def longestName : Nat := 255

/-- The longest path that can be opened, in bytes. -/
def longestPath : Nat := 4095

/-- Follows components from what stands at `p`. -/
def follow (t : FileTree) (p : Path) (e : Entry) : List String → Except FileError (Path × Entry)
  | [] => .ok (p, e)
  | c :: rest =>
    match e with
    | .file _ | .locked .. => .error .notADirectory
    | .directory =>
      if longestName < c.utf8ByteSize then .error .nameTooLong
      else match t.entryAt (p.resolve c) with
        | none => .error .notFound
        | some e => t.follow (p.resolve c) e rest

/-- What a path leads to. -/
def find (t : FileTree) (path : String) : Except FileError Entry :=
  if path = "" then .error .notFound
  else if longestPath < path.utf8ByteSize then .error .nameTooLong
  else
    (t.follow (Path.origin t.working path) .directory (Path.split path)).map (·.2)

def has (t : FileTree) (path : String) : Bool := (t.find path).isOk

/-- Whether a path leads to a file, be it one that can be opened or not. -/
def isFile (t : FileTree) (p : Path) : Bool :=
  match t.find p.text with
  | .ok (.file _) | .ok (.locked ..) => true
  | _ => false

/-- The bytes of a file. -/
def read (t : FileTree) (path : String) : Except FileError (List UInt8) :=
  match t.find path with
  | .ok (.file bytes) => .ok bytes
  | .ok (.locked number reason) => .error (.other number reason)
  | .ok .directory => .error .isADirectory
  | .error e => .error e

end FileTree

end WeakestPre
