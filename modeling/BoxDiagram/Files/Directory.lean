/-
Module: BoxDiagram.Files.Directory
Purpose: A directory with all files in it, held as a value.
Main exports: Directory, Directory.resolve, Directory.read, Directory.write, Directory.access
-/
import BoxDiagram.Files.Access
import BoxDiagram.Text.Split

namespace BoxDiagram

/-- Files by the names on the way to them.  Every name on the way but the last is a directory. -/
structure Directory where
  files : List (List String × ByteArray)

namespace Directory

def file? (d : Directory) (path : List String) : Option ByteArray :=
  (d.files.find? fun f => f.1 = path).map (·.2)

/-- Is it a directory, that is, the outermost one or one with something in it? -/
def isDirectory (d : Directory) (path : List String) : Bool :=
  path.isEmpty || d.files.any fun f => path.isPrefixOf f.1 && decide (path.length < f.1.length)

/-- The number of bytes in the longest name. -/
def longestName : Nat := 255

/-- The number of bytes in the longest path. -/
def longestPath : Nat := 4095

/-- Walk from a directory along names.  `.` and the empty name stay, `..` goes back, and the last name need
not exist.  What lies outside of the outermost directory is not there. -/
def walk (d : Directory) (here : List String) : List String → Except FileFault (List String)
  | [] => .ok here
  | name :: rest =>
      if !d.isDirectory here then
        .error (if (d.file? here).isSome then .notADirectory else .notFound)
      else if longestName < name.utf8ByteSize then .error .nameTooLong
      else if name = "" ∨ name = "." then walk d here rest
      else if name = ".." then if here.isEmpty then .error .notFound else walk d here.dropLast rest
      else walk d (here ++ [name]) rest

/-- The names that a path leads along.  A path from the root of the file system leads nowhere, and neither
does the empty path. -/
def resolve (d : Directory) (path : String) : Except FileFault (List String) :=
  if path.toList.contains '\x00' then .error .zeroInPath
  else if longestPath < path.utf8ByteSize then .error .nameTooLong
  else
    match Text.splitOn '/' path with
    | "" :: _ => .error .notFound
    | names => d.walk [] names

def read (d : Directory) (path : String) : Except FileFault ByteArray := do
  let names ← d.resolve path
  match d.file? names with
  | some bytes => .ok bytes
  | none => .error (if d.isDirectory names then .isADirectory else .notFound)

/-- Replace the bytes of a file, or add it at the end. -/
def put (names : List String) (bytes : ByteArray) :
    List (List String × ByteArray) → List (List String × ByteArray)
  | [] => [(names, bytes)]
  | f :: rest => if f.1 = names then (names, bytes) :: rest else f :: put names bytes rest

/-- Write a file.  The directory it is written into has to exist. -/
def write (d : Directory) (path : String) (bytes : ByteArray) : Except FileFault Directory := do
  let names ← d.resolve path
  if d.isDirectory names then .error .isADirectory
  else .ok ⟨put names bytes d.files⟩

/-- Reading and writing in a directory that is the state of a computation. -/
def access : FileAccess (StateM Directory) where
  read path := do return (← get).read path
  write path bytes := do
    match (← get).write path bytes with
    | .ok d => set d; return .ok ()
    | .error fault => return .error fault

end Directory

end BoxDiagram
