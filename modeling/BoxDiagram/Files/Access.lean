/-
Module: BoxDiagram.Files.Access
Purpose: Reading and writing files, whatever keeps them.
Main exports: FileFault, FileAccess, FileAccess.isPresent, FileAccess.readText
-/

namespace BoxDiagram

/-- Why a file cannot be read or written. -/
inductive FileFault where
  | notFound
  | notADirectory
  | isADirectory
  | nameTooLong
  | zeroInPath
  | notText
  | other (text : String)
deriving Repr, DecidableEq, Inhabited

namespace FileFault

def message : FileFault → String
  | notFound => "No such file or directory (os error 2)"
  | notADirectory => "Not a directory (os error 20)"
  | isADirectory => "Is a directory (os error 21)"
  | nameTooLong => "File name too long (os error 36)"
  | zeroInPath => "file name contained an unexpected NUL byte"
  | notText => "stream did not contain valid UTF-8"
  | other text => text

/-- Does the fault say that there is nothing at the path?  Nothing has a name that no file can have. -/
def isAbsence : FileFault → Bool
  | notFound | notADirectory | nameTooLong | zeroInPath => true
  | _ => false

end FileFault

/-- Something that keeps files by their paths. -/
structure FileAccess (m : Type → Type) where
  read : String → m (Except FileFault ByteArray)
  write : String → ByteArray → m (Except FileFault Unit)

namespace FileAccess

variable {m : Type → Type} [Monad m]

def isPresent (files : FileAccess m) (path : String) : m Bool := do
  match ← files.read path with
  | .ok _ => return true
  | .error fault => return !fault.isAbsence

def readText (files : FileAccess m) (path : String) : m (Except FileFault String) := do
  match ← files.read path with
  | .ok bytes =>
      match String.fromUTF8? bytes with
      | some text => return .ok text
      | none => return .error .notText
  | .error fault => return .error fault

end FileAccess

end BoxDiagram
