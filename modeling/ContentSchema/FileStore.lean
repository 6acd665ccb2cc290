import ContentSchema.FileStore.Path

/-!
# File stores

A file store says what lies at each location: a file with its bytes, a directory,
or nothing.  A location is the list of names on the way from the working
directory; it starts with steps upwards if it lies outside of it.

A path is walked segment by segment, and every segment needs a directory to start
from.  Each operation gives the fault for which it fails, and a failing operation
leaves the store as it was, except that directories made on the way to a missing
one stay.

The program speaks of files as effects.  A store is one way to have them; a disk is
the other.
-/

namespace ContentSchema

/-- Why an operation on a file store fails. -/
inductive Fault where
  | notFound
  | alreadyExists
  | notDirectory
  | isDirectory
  /-- A path or a name on it takes up too many octets. -/
  | nameTooLong
  /-- A path holds the character that ends texts on a disk. -/
  | nullInPath
  /-- The bytes of a file are no text. -/
  | notText
  /-- A disk has further faults, which no store in memory has. -/
  | other (reason : String)
  deriving DecidableEq, Repr

namespace Fault

/-- A fault for people. -/
def message : Fault → String
  | .notFound => "No such file or directory (os error 2)"
  | .alreadyExists => "File exists (os error 17)"
  | .notDirectory => "Not a directory (os error 20)"
  | .isDirectory => "Is a directory (os error 21)"
  | .nameTooLong => "File name too long (os error 36)"
  | .nullInPath => "file name contained an unexpected NUL byte"
  | .notText => "stream did not contain valid UTF-8"
  | .other reason => reason

end Fault

/-- What can lie at a location. -/
inductive Entry where
  | file (bytes : ByteArray)
  | directory

/-- What lies at each location. -/
structure FileStore where
  lookup : List String → Option Entry

namespace FileStore

/-- The working directory, the directories above it and the root. -/
def isGiven (location : List String) : Bool :=
  location == ["/"] || location.all (· == "..")

/-- The store that holds no file and no further directory. -/
def empty : FileStore :=
  ⟨fun location => if isGiven location then some .directory else none⟩

/-- Put an entry at a location. -/
def put (store : FileStore) (location : List String) (entry : Entry) : FileStore :=
  ⟨fun other => if other = location then some entry else store.lookup other⟩

/-- Take away what lies at a location and below it. -/
def erase (store : FileStore) (location : List String) : FileStore :=
  ⟨fun other => if location.isPrefixOf other then none else store.lookup other⟩

@[simp]
theorem lookup_put_self (store : FileStore) (location : List String) (entry : Entry) :
    (store.put location entry).lookup location = some entry := by
  simp [put]

theorem lookup_put_of_ne
    (store : FileStore) {location other : List String} (entry : Entry)
    (different : other ≠ location) :
    (store.put location entry).lookup other = store.lookup other := by
  simp [put, different]

/-- The location that a segment leads to. -/
def enter (location : List String) (segment : String) : List String :=
  if Path.isSilent segment then location
  else if segment == ".." then
    if location == ["/"] then location
    else if isGiven location then location ++ [".."]
    else location.dropLast
  else location ++ [segment]

/-- A location has to be a directory before anything below it can be reached. -/
def requireDirectory (store : FileStore) (location : List String) : Except Fault Unit :=
  match store.lookup location with
  | none => .error .notFound
  | some (.file _) => .error .notDirectory
  | some .directory => .ok ()

/-- A name may take up this many octets. -/
def nameLimit : Nat := 255

/-- A path has to take up fewer octets than this. -/
def pathLimit : Nat := 4096

/-- A name that no disk takes. -/
def isTooLong (name : String) : Bool :=
  name.utf8ByteSize > nameLimit

/-- The location to which segments lead, each from a directory. -/
def walk (store : FileStore) (location : List String) : List String →
    Except Fault (List String)
  | [] => .ok location
  | segment :: rest =>
    match store.requireDirectory location with
    | .error fault => .error fault
    | .ok () =>
      if isTooLong segment then .error .nameTooLong
      else store.walk (enter location segment) rest

/-- Where the walk along a path starts, and its segments from there. -/
def start (path : String) : List String × List String :=
  match Path.segments path with
  | "" :: rest => (["/"], rest)
  | named => ([], named)

/-- A path that a disk looks at: not an empty one, and not every text. -/
def checkPath (path : String) : Except Fault Unit :=
  if path.toList.contains '\x00' then .error .nullInPath
  else if path == "" then .error .notFound
  else if path.utf8ByteSize < pathLimit then .ok ()
  else .error .nameTooLong

/-- The location of a path. -/
def locate (store : FileStore) (path : String) : Except Fault (List String) :=
  match checkPath path with
  | .error fault => .error fault
  | .ok () => store.walk (start path).1 (start path).2

/-- What lies at the end of a path. -/
def find (store : FileStore) (path : String) : Except Fault Entry :=
  match store.locate path with
  | .error fault => .error fault
  | .ok location =>
    match store.lookup location with
    | none => .error .notFound
    | some entry => .ok entry

/-- Something lies at the end of a path. -/
def contains (store : FileStore) (path : String) : Bool :=
  (store.find path).isOk

/-- A directory lies at the end of a path. -/
def isDirectory (store : FileStore) (path : String) : Bool :=
  match store.find path with
  | .ok .directory => true
  | _ => false

/-- The text of a file. -/
def readText (store : FileStore) (path : String) : Except Fault String :=
  match store.find path with
  | .error fault => .error fault
  | .ok .directory => .error .isDirectory
  | .ok (.file bytes) =>
    match String.fromUTF8? bytes with
    | none => .error .notText
    | some text => .ok text

/-- The last component of a path apart, with the segments before it. -/
def splitLast (segments : List String) : List String × Option String :=
  let named := (segments.reverse.dropWhile (· == "")).reverse
  (named.dropLast, named.getLast?)

/-- The directory in which a path names something new, with that name. -/
def locateNew (store : FileStore) (path : String) :
    Except Fault (List String × Option String) :=
  match checkPath path with
  | .error fault => .error fault
  | .ok () =>
    let (before, last) := splitLast (start path).2
    match store.walk (start path).1 before with
    | .error fault => .error fault
    | .ok location =>
      match store.requireDirectory location with
      | .error fault => .error fault
      | .ok () => .ok (location, last)

/-- A name that does not stand for a directory already. -/
def isPlainName (name : String) : Bool :=
  !Path.isSilent name && name != ".."

/-- Write a file: a path with a slash at its end, or to a directory, cannot be written. -/
def writeBytes (store : FileStore) (path : String) (bytes : ByteArray) :
    Except Fault FileStore :=
  match store.locateNew path with
  | .error fault => .error fault
  | .ok (_, none) => .error .isDirectory
  | .ok (location, some name) =>
    if !isPlainName name || path.toList.getLast? == some '/' then .error .isDirectory
    else if isTooLong name then .error .nameTooLong
    else
      match store.lookup (location ++ [name]) with
      | some .directory => .error .isDirectory
      | _ => .ok (store.put (location ++ [name]) (.file bytes))

/-- Write a text to a file. -/
def writeText (store : FileStore) (path text : String) : Except Fault FileStore :=
  store.writeBytes path text.toUTF8

/-- Make a directory in a directory that is there. -/
def makeDirectory (store : FileStore) (path : String) : Except Fault FileStore :=
  match store.locateNew path with
  | .error fault => .error fault
  | .ok (_, none) => .error .alreadyExists
  | .ok (location, some name) =>
    if !isPlainName name then .error .alreadyExists
    else if isTooLong name then .error .nameTooLong
    else
      match store.lookup (location ++ [name]) with
      | some _ => .error .alreadyExists
      | none => .ok (store.put (location ++ [name]) .directory)

/-- The path of components. -/
def ofComponents : List String → String
  | "/" :: rest => "/" ++ String.intercalate "/" rest
  | components => String.intercalate "/" components

/-- A fault does not matter where there is a directory after all. -/
def unlessDirectory (store : FileStore) (path : String) (fault : Fault) :
    Except Fault Unit × FileStore :=
  if store.isDirectory path then (.ok (), store) else (.error fault, store)

/--
Make a directory and all that are missing on the way to it.  The components come
last first, so that each step without a directory to start from makes that one.
-/
def makeDirectories (store : FileStore) : List String → Except Fault Unit × FileStore
  | [] => (.ok (), store)
  | last :: before =>
    let path := ofComponents (last :: before).reverse
    match store.makeDirectory path with
    | .ok made => (.ok (), made)
    | .error .notFound =>
      match store.makeDirectories before with
      | (.error fault, reached) => (.error fault, reached)
      | (.ok (), reached) =>
        match reached.makeDirectory path with
        | .ok made => (.ok (), made)
        | .error fault => reached.unlessDirectory path fault
    | .error fault => store.unlessDirectory path fault

/-- Make a directory and all that are missing on the way to it. -/
def makeDirectoryPath (store : FileStore) (path : String) : Except Fault Unit × FileStore :=
  store.makeDirectories (Path.components path).reverse

/-- Take away what a path leads to; nothing happens when there is nothing. -/
def remove (store : FileStore) (path : String) : FileStore :=
  match store.locate path with
  | .error _ => store
  | .ok location => if isGiven location then store else store.erase location

end FileStore

/-- What the program does with files, as effects of some kind. -/
structure Files (Effect : Type → Type) where
  contains : String → Effect Bool
  readText : String → Effect (Except Fault String)
  /-- Make a directory, and those on the way to it that are missing. -/
  makeDirectoryPath : String → Effect (Except Fault Unit)
  /-- Put a text, the second argument, in the place of what a file holds. -/
  writeText : String → String → Effect (Except Fault Unit)

/-- The files of a store, which every operation hands on. -/
def FileStore.files : Files (StateM FileStore) where
  contains path := do
    return (← get).contains path
  readText path := do
    return (← get).readText path
  makeDirectoryPath path := do
    let (outcome, after) := (← get).makeDirectoryPath path
    set after
    return outcome
  writeText path text := do
    match (← get).writeText path text with
    | .error fault => return .error fault
    | .ok after =>
      set after
      return .ok ()

namespace FileStore

theorem run_contains (path : String) (store : FileStore) :
    (files.contains path).run store = pure (store.contains path, store) := rfl

theorem run_readText (path : String) (store : FileStore) :
    (files.readText path).run store = pure (store.readText path, store) := rfl

theorem run_makeDirectoryPath (path : String) (store : FileStore) :
    (files.makeDirectoryPath path).run store = pure (store.makeDirectoryPath path) := rfl

/-- A text that cannot be written leaves the store as it was. -/
theorem run_writeText (path text : String) (store : FileStore) :
    (files.writeText path text).run store =
      match store.writeText path text with
      | .error fault => pure (.error fault, store)
      | .ok after => pure (.ok (), after) := by
  simp only [files, StateT.run_bind, StateT.run_get, pure_bind]
  cases store.writeText path text <;> rfl

end FileStore

end ContentSchema
