/-!
# Files

Commands read and write files through a `FileAccess`, so that the same commands work on a file system
and on files in memory. In memory, a path is followed name by name from the working directory, so that
two paths to one place are one file, and a wrong path fails at its first wrong name.
-/

namespace Phrasebook

/-- Ways to read and write files. Failures are told by their wording. -/
structure FileAccess (m : Type → Type) where
  /-- The content of a file. -/
  read : (path : String) → m (Except String (List UInt8))
  /-- Makes a file with a content, in the place of an earlier one. -/
  write : (path : String) → List UInt8 → m (Except String Unit)

/-- Why a file can not be used. -/
inductive FileError where
  /-- It is not there. -/
  | missing
  /-- Something on the way to it is no directory. -/
  | notDirectory
  /-- It is a directory. -/
  | isDirectory
  /-- A name on the way to it, or the whole path, is too long. -/
  | nameTooLong
deriving DecidableEq, Repr

/-- The wording of the error. -/
def FileError.message : FileError → String
  | missing => "No such file or directory (os error 2)"
  | notDirectory => "Not a directory (os error 20)"
  | isDirectory => "Is a directory (os error 21)"
  | nameTooLong => "File name too long (os error 36)"

/-! ## Places -/

/-- The names that lead from the working directory to a file or directory. One directory up is `..`,
    and the root of all directories is `/`. -/
abbrev Place := List String

/-- The root of all directories. -/
def Place.root : Place := ["/"]

/-- The directories that every system has. -/
def Place.standard : List Place := [Place.root, ["/", "dev"], ["/", "tmp"]]

/-- The file that is always empty. -/
def Place.null : Place := ["/", "dev", "null"]

/-- Directories are the working directory, those above it, and the standard ones; all else are files. -/
def Place.isDirectory (place : Place) : Bool :=
  place.all (· == "..") || Place.standard.contains place

/-- The directory around one. The root is in itself. -/
def Place.parent (directory : Place) : Place :=
  if directory == Place.root then directory
  else if directory.head? == some "/" then directory.dropLast
  else directory ++ [".."]

/-- The most bytes in a name. -/
def nameLimit : Nat := 255

/-- The most bytes in a path. -/
def pathLimit : Nat := 4095

/-- The place that one step of a path leads to from a directory. -/
def Place.step (directory : Place) (name : String) : Except FileError Place :=
  if name == "." then .ok directory
  else if name == ".." then .ok directory.parent
  else if nameLimit < name.utf8ByteSize then .error .nameTooLong
  else .ok (directory ++ [name])

/-- A path taken apart. -/
structure Path where
  /-- Where it starts: in the working directory or at the root. -/
  start : Place
  /-- The steps in front of the last one. -/
  steps : List String
  /-- The last step. -/
  last : String
  /-- A slash behind the last step asks for a directory. -/
  slash : Bool
deriving DecidableEq, Repr

/-- Takes a path apart. Slashes in a row count as one. -/
def Path.parse (path : String) : Except FileError Path :=
  let start := if path.toList.head? == some '/' then Place.root else []
  let steps := (path.splitOn "/").filter (· != "")
  if path.isEmpty then .error .missing
  else if pathLimit < path.utf8ByteSize then .error .nameTooLong
  else .ok ⟨start, steps.dropLast, steps.getLast?.getD ".", path.toList.getLast? == some '/'⟩

/-! ## Files in memory -/

/-- Files by place. -/
structure MemoryFiles where
  /-- Places and contents; the first content of a place counts. -/
  files : List (Place × List UInt8)

namespace MemoryFiles

/-- Files in the working directory, by name. -/
def ofNames (files : List (String × List UInt8)) : MemoryFiles :=
  ⟨files.map fun (name, content) => ([name], content)⟩

/-- The content of the file at a place. -/
def get? (store : MemoryFiles) (place : Place) : Option (List UInt8) :=
  if place == Place.null then some [] else store.files.lookup place

/-- The directory that steps lead to. -/
def walk (store : MemoryFiles) :
    (directory : Place) → (steps : List String) → Except FileError Place
  | directory, [] => .ok directory
  | directory, name :: names => do
    let place ← directory.step name
    if place.isDirectory then store.walk place names
    else .error (if (store.get? place).isSome then .notDirectory else .missing)

/-- The file at a path. -/
def read (store : MemoryFiles) (path : String) : Except FileError (List UInt8) := do
  let path ← Path.parse path
  let directory ← store.walk path.start path.steps
  let place ← directory.step path.last
  if place.isDirectory then .error .isDirectory
  else
    match store.get? place with
    | none => .error .missing
    | some content => if path.slash then .error .notDirectory else .ok content

/-- The files with one at a path. -/
def write (store : MemoryFiles) (path : String) (content : List UInt8) :
    Except FileError MemoryFiles := do
  let path ← Path.parse path
  let directory ← store.walk path.start path.steps
  -- a slash asks for a directory even where the name is too long or taken by a file
  if path.slash then .error .isDirectory
  else
    let place ← directory.step path.last
    if place.isDirectory then .error .isDirectory
    else if place == Place.null then .ok store
    else .ok ⟨(place, content) :: store.files⟩

/-- Access to files in memory. -/
def access : FileAccess (StateM MemoryFiles) where
  read path := do return ((← get).read path).mapError FileError.message
  write path content := do
    match (← get).write path content with
    | .ok store =>
      set store
      return .ok ()
    | .error e => return .error e.message

end MemoryFiles

end Phrasebook
