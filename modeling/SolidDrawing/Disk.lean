import SolidDrawing.Disk.Path

/-!
# Disks

What a program reads and writes. `FileSystem` is a record of the actions it needs; `Disk` is a value that holds
directories and files, and `Disk.fileSystem` acts on a disk that the monad holds, so that what becomes of the files can
be stated.

A place on a disk is the list of names from the root. Every place but the root lies in a directory.
-/

namespace SolidDrawing

/-- Access to files. A fault is a text. -/
structure FileSystem (m : Type → Type) where
  /-- The working directory, from the root on. -/
  directory : String
  /-- The text in a file. -/
  read : Path → ExceptT String m String
  /-- Makes a directory and those it lies in, as far as they are not there. -/
  makeDirectories : Path → ExceptT String m Unit
  /-- Puts bytes into a new or an existing file. -/
  write : Path → List UInt8 → ExceptT String m Unit

/-- Puts bytes into a file, and makes the directories it lies in. -/
def FileSystem.save {m : Type → Type} [Monad m] (fs : FileSystem m) (path : String) (bytes : List UInt8) :
    ExceptT String m Unit := do
  let p : Path := ⟨path⟩
  match p.parent? with
  | some parent => if parent.isEmpty then pure () else fs.makeDirectories parent
  | none => pure ()
  fs.write p bytes

/-- The same access from a monad on top. -/
def FileSystem.lift {m n : Type → Type} [MonadLiftT m n] (fs : FileSystem m) : FileSystem n :=
  { directory := fs.directory
    read := fun p => ExceptT.mk (monadLift (fs.read p).run)
    makeDirectories := fun p => ExceptT.mk (monadLift (fs.makeDirectories p).run)
    write := fun p bytes => ExceptT.mk (monadLift (fs.write p bytes).run) }

/-- What is at a place. -/
inductive Entry where
  | directory
  | file (bytes : List UInt8)
  deriving Repr, DecidableEq

/-- Names from the root on. -/
abbrev Place := List String

/-- Why an action on a disk fails. -/
inductive DiskFault where
  | notFound
  | alreadyThere
  | isDirectory
  | notDirectory
  | nameTooLong
  | badName
  | badText
  deriving Repr, DecidableEq

/-- The text of a fault. -/
def DiskFault.message : DiskFault → String
  | notFound => "No such file or directory"
  | alreadyThere => "File exists"
  | isDirectory => "Is a directory"
  | notDirectory => "Not a directory"
  | nameTooLong => "File name too long"
  | badName => "file name contained an unexpected NUL byte"
  | badText => "stream did not contain valid UTF-8"

/-- The most bytes that a name, and that a path, may have. -/
def nameLimit : Nat := 255

@[inherit_doc nameLimit]
def pathLimit : Nat := 4095

/-- Directories and files at their places, the root apart, and a working directory. -/
structure Disk where
  entries : List (Place × Entry)
  directory : Place
  deriving Repr, DecidableEq

namespace Disk

/-- What is at a place. -/
def find? (d : Disk) (place : Place) : Option Entry :=
  if place.isEmpty then some .directory else (d.entries.find? fun e => e.1 == place).map (·.2)

/-- Puts an entry at a place, over what was there. -/
def put (d : Disk) (place : Place) (e : Entry) : Disk :=
  { d with entries := (place, e) :: d.entries.filter fun old => old.1 != place }

@[simp] theorem find?_root (d : Disk) : d.find? [] = some .directory := rfl

theorem find?_put_self (d : Disk) {place : Place} (h : place ≠ []) (e : Entry) :
    (d.put place e).find? place = some e := by
  simp [find?, put, h]

theorem find?_put_of_ne (d : Disk) {place other : Place} (h : other ≠ place) (e : Entry) :
    (d.put place e).find? other = d.find? other := by
  have hne : (place == other) = false := by simpa using Ne.symm h
  have hkeep : (fun old : Place × Entry => decide ((old.1 != place) = true ∧ (old.1 == other) = true)) =
      fun old => old.1 == other := by
    funext old
    by_cases ho : old.1 = other <;> simp [ho, h]
  simp only [find?, put, List.find?_cons, hne, List.find?_filter, hkeep]

/-- Follows steps from a directory through directories. -/
def walk (d : Disk) : Place → List Step → Except DiskFault Place
  | place, [] => .ok place
  | place, .up :: rest => d.walk place.dropLast rest
  | place, .name s :: rest =>
    if s.utf8ByteSize > nameLimit then .error .nameTooLong
    else
      match d.find? (place ++ [s]) with
      | none => .error .notFound
      | some (.file _) => .error .notDirectory
      | some .directory => d.walk (place ++ [s]) rest

/-- Where a path starts. -/
def start (d : Disk) (rooted : Bool) : Place := if rooted then [] else d.directory

/-- The fault of a path that no disk can follow. What leads nowhere counts towards its length too. -/
def pathFault? (p : Path) : Option DiskFault :=
  if p.text.toList.contains '\x00' then some .badName
  else if p.text.utf8ByteSize > pathLimit then some .nameTooLong
  else none

/-- Where steps lead: to a directory that is there, or to a name in one. -/
inductive Target where
  | directory (place : Place)
  | named (parent : Place) (name : String)
  deriving Repr, DecidableEq

/-- Follows steps from the root or from the working directory, up to the last name. -/
def targetOf (d : Disk) (rooted : Bool) (steps : List Step) : Except DiskFault Target :=
  match steps.getLast? with
  | some (.name s) => do
    let parent ← d.walk (d.start rooted) steps.dropLast
    if s.utf8ByteSize > nameLimit then .error .nameTooLong else .ok (.named parent s)
  | _ => (d.walk (d.start rooted) steps).map .directory

/-- Follows a path up to its last name. -/
def target (d : Disk) (p : Path) : Except DiskFault Target :=
  match pathFault? p with
  | some fault => .error fault
  | none => d.targetOf p.isRooted p.steps

/-- Makes one directory. -/
def makeDirectory (d : Disk) (rooted : Bool) (steps : List Step) : Except DiskFault Disk := do
  match ← d.targetOf rooted steps with
  | .directory _ => .error .alreadyThere
  | .named parent s =>
    if (d.find? (parent ++ [s])).isSome then .error .alreadyThere else .ok (d.put (parent ++ [s]) .directory)

/-- Makes one directory unless it is there. -/
def ensureDirectory (d : Disk) (rooted : Bool) (steps : List Step) : Except DiskFault Disk :=
  match d.makeDirectory rooted steps with
  | .ok d => .ok d
  | .error fault => if (d.walk (d.start rooted) steps).isOk then .ok d else .error fault

/-- Makes the directories that the remaining steps lead through, behind the steps `done`. Those made before a fault
stay. -/
def makeAlong (rooted : Bool) (done : List Step) : List Step → Disk → Except DiskFault Unit × Disk
  | [], d => (.ok (), d)
  | s :: rest, d =>
    match d.ensureDirectory rooted (done ++ [s]) with
    | .ok d => makeAlong rooted (done ++ [s]) rest d
    | .error fault => (.error fault, d)

/-- Makes the directories along a path. -/
def makeDirectories (d : Disk) (p : Path) : Except DiskFault Unit × Disk :=
  match pathFault? p with
  | some fault => (.error fault, d)
  | none => makeAlong p.isRooted [] p.steps d

/-- Puts bytes into a file. -/
def write (d : Disk) (p : Path) (bytes : List UInt8) : Except DiskFault Disk := do
  match ← d.target p with
  | .directory _ => .error .isDirectory
  | .named parent s =>
    match d.find? (parent ++ [s]), p.isClosed with
    | some .directory, _ => .error .isDirectory
    | some (.file _), true => .error .notDirectory
    | none, true => .error .isDirectory
    | _, false => .ok (d.put (parent ++ [s]) (.file bytes))

/-- The bytes of a file. -/
def read (d : Disk) (p : Path) : Except DiskFault (List UInt8) := do
  match ← d.target p with
  | .directory _ => .error .isDirectory
  | .named parent s =>
    match d.find? (parent ++ [s]), p.isClosed with
    | some .directory, _ => .error .isDirectory
    | some (.file _), true => .error .notDirectory
    | some (.file bytes), false => .ok bytes
    | none, _ => .error .notFound

/-- The text of a place from the root on. -/
def placeText (place : Place) : String := "/" ++ "/".intercalate place

/-- A fault as a text. -/
def explain {α : Type} : Except DiskFault α → Except String α
  | .ok a => .ok a
  | .error fault => .error fault.message

/-- The text that bytes encode. -/
def decodeText (bytes : List UInt8) : Except DiskFault String :=
  match String.fromUTF8? (ByteArray.mk bytes.toArray) with
  | some s => .ok s
  | none => .error .badText

/-- Access to the disk that the monad holds, from the working directory with the given text. -/
def fileSystem {m : Type → Type} [Monad m] [MonadStateOf Disk m] (directory : String) : FileSystem m :=
  { directory
    read := fun p => (modifyGet fun d => (explain (d.read p >>= decodeText), d) : m (Except String String))
    makeDirectories := fun p =>
      (modifyGet fun d => let (r, d) := d.makeDirectories p; (explain r, d) : m (Except String Unit))
    write := fun p bytes =>
      (modifyGet fun d =>
        match d.write p bytes with
        | .ok d => (.ok (), d)
        | .error fault => (.error fault.message, d) : m (Except String Unit)) }

end Disk

end SolidDrawing
