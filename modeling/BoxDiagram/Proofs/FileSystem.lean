/-
Module: BoxDiagram.Proofs.FileSystem
Purpose: File systems whose writes either succeed completely or change nothing, and what computations over one of them
  leave behind.  A directory that is held as a value is such a file system.
Main exports: FileSystem, FileSystem.Holds, FileSystem.Wrote, FileSystem.access, Directory.fileSystem, outcome, Keeps
-/
import BoxDiagram.CommandLine.Session
import BoxDiagram.Files.Directory

namespace BoxDiagram

/-- Files with their contents.  Paths lead to files, and two paths may lead to one file.  What is read at a path is what
the file holds; a write that succeeds gives the file at the path its new contents and leaves all others as they are. -/
structure FileSystem (σ ν : Type) where
  contents : σ → ν → Option ByteArray
  locate : σ → String → Except FileFault ν
  read : σ → String → Except FileFault ByteArray
  write : σ → String → ByteArray → Except FileFault σ
  read_contents : ∀ {s path bytes}, read s path = .ok bytes →
    ∃ file, locate s path = .ok file ∧ contents s file = some bytes
  write_contents : ∀ {s t path bytes}, write s path bytes = .ok t →
    ∃ file, locate s path = .ok file ∧ contents t file = some bytes ∧
      ∀ other, other ≠ file → contents t other = contents s other

/-- What a write leaves behind: the new state, or the old one if it fails. -/
def settle {σ : Type} (before : σ) : Except FileFault σ → Except FileFault Unit × σ
  | .ok after => (.ok (), after)
  | .error fault => (.error fault, before)

namespace FileSystem

variable {σ ν : Type} (fs : FileSystem σ ν)

/-- The path leads to a file with these contents. -/
def Holds (s : σ) (path : String) (bytes : ByteArray) : Prop :=
  ∃ file, fs.locate s path = .ok file ∧ fs.contents s file = some bytes

/-- The file at the path has got these contents, and no other file has changed. -/
def Wrote (before : σ) (path : String) (bytes : ByteArray) (after : σ) : Prop :=
  ∃ file, fs.locate before path = .ok file ∧ fs.contents after file = some bytes ∧
    ∀ other, other ≠ file → fs.contents after other = fs.contents before other

/-- Reading and writing in a file system that is the state of a computation.  A write that fails leaves it as it is. -/
def access : FileAccess (StateM σ) where
  read path := do return fs.read (← get) path
  write path bytes := do
    match fs.write (← get) path bytes with
    | .ok after => set after; return .ok ()
    | .error fault => return .error fault

theorem access_write (s : σ) (path : String) (bytes : ByteArray) :
    fs.access.write path bytes s = settle s (fs.write s path bytes) := by
  simp only [access, bind, StateT.bind, get, getThe, MonadStateOf.get, StateT.get, pure]
  cases fs.write s path bytes <;> rfl

/-- The text in the file at a path. -/
def text (s : σ) (path : String) : Except FileFault String :=
  match fs.read s path with
  | .ok bytes =>
      match String.fromUTF8? bytes with
      | some text => .ok text
      | none => .error .notText
  | .error fault => .error fault

theorem text_eq_ok {s : σ} {path source : String} (found : fs.text s path = .ok source) :
    ∃ bytes, fs.Holds s path bytes ∧ String.fromUTF8? bytes = some source := by
  rw [text] at found
  split at found
  · rename_i bytes isRead
    split at found
    · rename_i decoded
      cases found
      exact ⟨bytes, fs.read_contents isRead, decoded⟩
    · cases found
  · cases found

end FileSystem

/-! ### A directory as a file system -/

namespace Directory

theorem find?_put (names other : List String) (bytes : ByteArray) (files : List (List String × ByteArray)) :
    ((put names bytes files).find? fun f => f.1 = other).map (·.2) =
      if names = other then some bytes else (files.find? fun f => f.1 = other).map (·.2) := by
  induction files with
  | nil => by_cases wanted : names = other <;> simp [put, wanted]
  | cons f rest ih =>
      rw [put]
      by_cases same : f.1 = names
      · rw [if_pos same, List.find?_cons, List.find?_cons, same]
        by_cases wanted : names = other <;> simp [wanted]
      · rw [if_neg same, List.find?_cons, List.find?_cons]
        by_cases wanted : f.1 = other
        · have different : names ≠ other := fun equal => same (wanted.trans equal.symm)
          simp [wanted, different]
        · simpa [wanted] using ih

/-- A directory is a file system; its files are told by the names on the way to them. -/
def fileSystem : FileSystem Directory (List String) where
  contents := file?
  locate := resolve
  read := read
  write := write
  read_contents := by
    intro d path bytes found
    rw [read] at found
    cases resolved : d.resolve path with
    | error fault =>
        rw [resolved] at found
        cases found
    | ok names =>
        rw [resolved] at found
        dsimp only [bind, Except.bind] at found
        split at found
        · rename_i isFile
          cases found
          exact ⟨names, rfl, isFile⟩
        · cases found
  write_contents := by
    intro d after path bytes written
    rw [write] at written
    cases resolved : d.resolve path with
    | error fault =>
        rw [resolved] at written
        cases written
    | ok names =>
        rw [resolved] at written
        dsimp only [bind, Except.bind] at written
        split at written
        · cases written
        · cases written
          refine ⟨names, rfl, ?_, fun other different => ?_⟩
          · rw [file?, find?_put, if_pos rfl]
          · rw [file?, find?_put, if_neg (Ne.symm different)]
            rfl

theorem access_write (d : Directory) (path : String) (bytes : ByteArray) :
    access.write path bytes d = settle d (d.write path bytes) := by
  simp only [access, bind, StateT.bind, get, getThe, MonadStateOf.get, StateT.get, pure]
  cases d.write path bytes <;> rfl

/-- Computations over a directory are computations over this file system. -/
theorem fileSystem_access : fileSystem.access = access := by
  have reads : fileSystem.access.read = access.read := rfl
  have writes : fileSystem.access.write = access.write := by
    funext path bytes d
    exact (fileSystem.access_write d path bytes).trans (access_write d path bytes).symm
  exact (FileAccess.mk.injEq ..).mpr ⟨reads, writes⟩

end Directory

/-! ### Computations over a file system -/

variable {σ ν β γ : Type}

/-- The result of a computation, and the state it leaves behind. -/
def outcome (x : ExceptT Failure (StateM σ) β) (s : σ) : Except Failure β × σ := Id.run (x.run.run s)

theorem outcome_pure (value : β) (s : σ) : outcome (pure value) s = (.ok value, s) := rfl

/-- A step that fails is the last one. -/
theorem outcome_bind (x : ExceptT Failure (StateM σ) β) (f : β → ExceptT Failure (StateM σ) γ) (s : σ) :
    outcome (x >>= f) s =
      match outcome x s with
      | (.ok value, t) => outcome (f value) t
      | (.error failure, t) => (.error failure, t) := by
  have unfolded : outcome (x >>= f) s = Id.run (StateT.run (ExceptT.bindCont f (outcome x s).1) (outcome x s).2) := rfl
  rw [unfolded]
  obtain ⟨result, t⟩ := outcome x s
  cases result <;> rfl

theorem outcome_ofExcept (result : Except Failure β) (s : σ) :
    outcome (MonadExcept.ofExcept result) s = (result, s) := by
  cases result <;> rfl

/-- A computation that does not fail by itself. -/
theorem outcome_lift (x : StateM σ β) (s : σ) :
    outcome (liftM x : ExceptT Failure (StateM σ) β) s = (.ok (Id.run (x.run s)).1, (Id.run (x.run s)).2) := rfl

/-- The computation leaves every state as it is. -/
def Keeps (x : ExceptT Failure (StateM σ) β) : Prop := ∀ s, (outcome x s).2 = s

theorem Keeps.bind {x : ExceptT Failure (StateM σ) β} {f : β → ExceptT Failure (StateM σ) γ} (first : Keeps x)
    (rest : ∀ value, Keeps (f value)) : Keeps (x >>= f) := by
  intro s
  rw [outcome_bind]
  have kept := first s
  generalize outcome x s = answer at kept ⊢
  obtain ⟨result, t⟩ := answer
  subst kept
  cases result with
  | ok value => exact rest value t
  | error failure => rfl

theorem keeps_pure (value : β) : Keeps (pure value : ExceptT Failure (StateM σ) β) := fun _ => rfl

theorem keeps_throw (failure : Failure) : Keeps (throw failure : ExceptT Failure (StateM σ) β) := fun _ => rfl

namespace FileSystem

variable (fs : FileSystem σ ν)

theorem run_readText (path : String) (s : σ) : (fs.access.readText path).run s = (fs.text s path, s) := by
  have unfolded : (fs.access.readText path).run s = (match fs.read s path with
    | .ok bytes =>
        match String.fromUTF8? bytes with
        | some text => return .ok text
        | none => return .error .notText
    | .error fault => return .error fault : StateM σ (Except FileFault String)).run s := rfl
  rw [unfolded, text]
  cases fs.read s path with
  | error fault => rfl
  | ok bytes =>
      dsimp only
      cases String.fromUTF8? bytes <;> rfl

theorem keeps_isPresent (path : String) : Keeps (liftM (fs.access.isPresent path) : ExceptT Failure (StateM σ) Bool) := by
  intro s
  have unfolded : (outcome (liftM (fs.access.isPresent path)) s).2 = (Id.run ((match fs.read s path with
    | .ok _ => return true
    | .error fault => return !fault.isAbsence : StateM σ Bool).run s)).2 := rfl
  rw [unfolded]
  cases fs.read s path <;> rfl

/-- Reading a file gives its text. -/
theorem outcome_readFile (path : String) (s : σ) :
    outcome (readFile fs.access path) s = ((fs.text s path).mapError fun fault => .io fault.message, s) := by
  rw [readFile, outcome_bind, outcome_lift, run_readText]
  cases fs.text s path <;> rfl

theorem keeps_readFile (path : String) : Keeps (readFile fs.access path) := by
  intro s
  rw [outcome_readFile]

/-- Writing a file succeeds as a whole or changes nothing. -/
theorem outcome_writeFile (path : String) (bytes : ByteArray) (s : σ) :
    outcome (writeFile fs.access path bytes) s =
      match fs.write s path bytes with
      | .ok after => (.ok (), after)
      | .error fault => (.error (.io fault.message), s) := by
  have written : Id.run ((fs.access.write path bytes).run s) = settle s (fs.write s path bytes) :=
    fs.access_write s path bytes
  rw [writeFile, outcome_bind, outcome_lift, written]
  cases fs.write s path bytes <;> rfl

end FileSystem

end BoxDiagram
