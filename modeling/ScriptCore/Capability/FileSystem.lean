set_option autoImplicit false

/-! # The files an engine sees

A `FileSystem` holds the files and directories under the working directory, each by its
components. It is built from a listing, entry after entry, as the operating system would
create them: a directory entry makes every missing directory on its path, and a file entry
first makes the directories above it and then writes the file, replacing a file of that name.
Making a directory where a file is fails (`File exists`, or `Not a directory` further down),
and so does writing where a directory is or to a path with a trailing `/` (`Is a directory`).
A directory entry whose last part is `.` makes nothing itself: its directory must be there.
A listed name must be relative and spell only plain names: no leading `/` or `.`, no `..`.
The listing is how a host prepares the working directory before an engine starts; the engine
itself only looks paths up (`FileSystem.resolveOn`). -/

namespace ScriptCore

/-- What a path can name: a file with its bytes, or a directory. -/
inductive Node where
  | file (bytes : List UInt8)
  | directory
  deriving DecidableEq, Repr

/-- Why a path could not be opened, read or created. -/
inductive IoError where
  | notFound
  | notADirectory
  | isADirectory
  | nameTooLong
  | nulInName
  | alreadyExists
  | noDevice
  | tooManyLinks
  deriving DecidableEq, Repr

/-- The text the operating system gives for an error. -/
def IoError.message : IoError → String
  | .notFound => "No such file or directory (os error 2)"
  | .notADirectory => "Not a directory (os error 20)"
  | .isADirectory => "Is a directory (os error 21)"
  | .nameTooLong => "File name too long (os error 36)"
  | .nulInName => "file name contained an unexpected NUL byte"
  | .alreadyExists => "File exists (os error 17)"
  | .noDevice => "No such device or address (os error 6)"
  | .tooManyLinks => "Too many levels of symbolic links (os error 40)"

/-- Files and directories under the working directory, each by its components. -/
structure FileSystem where
  entries : List (List String × Node)

namespace FileSystem

/-- Nothing but the working directory. -/
def empty : FileSystem := ⟨[]⟩

/-- The parts of a path between slashes, empty ones included: `n` slashes give `n + 1`
parts. -/
def splitSlashes : List Char → List String
  | [] => [""]
  | c :: rest =>
    match splitSlashes rest with
    | part :: more => if c = '/' then "" :: part :: more else (String.singleton c ++ part) :: more
    | [] => [String.singleton c]

/-- The names of a path: its parts other than empty ones and `.`. -/
def names (path : String) : List String :=
  (splitSlashes path.toList).filter fun part => part != "" && part != "."

/-- What the components name, if anything; no components name the directory itself. -/
def nodeAt? (fs : FileSystem) (cs : List String) : Option Node :=
  if cs.isEmpty then some .directory else (fs.entries.find? (·.1 == cs)).map (·.2)

/-- The file system with the entry for some components set, replacing an earlier one. -/
def put (fs : FileSystem) (cs : List String) (node : Node) : FileSystem :=
  if fs.entries.any (·.1 == cs) then
    ⟨fs.entries.map fun e => if e.1 == cs then (cs, node) else e⟩
  else ⟨fs.entries ++ [(cs, node)]⟩

/-- The longest name of one component, in bytes. -/
def maxComponentBytes : Nat := 255

/-- Paths of this many bytes or more are too long. -/
def pathLimitBytes : Nat := 4096

/-- Makes the directories `done ++ cs`, from the top down: a missing one is made, a file in
the way fails, and so does a name too long. -/
def makeDirsFrom (fs : FileSystem) (done : List String) : List String → Except IoError FileSystem
  | [] => .ok fs
  | c :: rest =>
    if maxComponentBytes < c.utf8ByteSize then .error .nameTooLong else
    let here := done ++ [c]
    match fs.nodeAt? here with
    | some .directory => fs.makeDirsFrom here rest
    | some (.file _) => .error (if rest.isEmpty then .alreadyExists else .notADirectory)
    | none => (fs.put here .directory).makeDirsFrom here rest

/-- Makes a directory and every missing one above it. -/
def makeDirs (fs : FileSystem) (cs : List String) : Except IoError FileSystem :=
  if cs.any (·.toList.contains '\x00') then .error .nulInName else fs.makeDirsFrom [] cs

/-- What some names lead to from the directory `done`, as a look-up walks them: a name too
long fails, a missing name is not found, and a file with names after it is not a directory. -/
def lookupFrom (fs : FileSystem) (done : List String) : List String → Except IoError Node
  | [] => .ok .directory
  | c :: rest =>
    if maxComponentBytes < c.utf8ByteSize then .error .nameTooLong else
    let here := done ++ [c]
    match fs.nodeAt? here with
    | some .directory => fs.lookupFrom here rest
    | some (.file bytes) => if rest.isEmpty then .ok (.file bytes) else .error .notADirectory
    | none => .error .notFound

/-- Makes the directory a listed name names, with every missing one above it. A name whose
last part is `.` names a directory that must be there already: the system makes no directory
for a `.`, so a missing one is not made, though the directories above its own are. -/
def makeDirsAt (fs : FileSystem) (path : String) : Except IoError FileSystem :=
  let cs := names path
  if ((splitSlashes path.toList).filter (· != "")).getLast? != some "." then fs.makeDirs cs
  else if path.toList.contains '\x00' then .error .nulInName
  else match fs.lookupFrom [] cs with
    | .ok .directory => .ok fs
    | .ok (.file _) => .error .notADirectory
    | .error .notFound => do
      let _ ← fs.makeDirs cs.dropLast
      .error (if cs.getLast?.any (maxComponentBytes < ·.utf8ByteSize) then .nameTooLong
        else .notFound)
    | .error e => .error e

/-- Writes a file at a path, after making the directories above it. A path that ends in `/`
or `.`, or that names a directory, cannot be written. -/
def writeFile (fs : FileSystem) (path : String) (bytes : List UInt8) :
    Except IoError FileSystem := do
  let cs := names path
  let fs ← fs.makeDirs cs.dropLast
  if path.toList.contains '\x00' then .error .nulInName else
  match (splitSlashes path.toList).getLast? with
  | some "" => .error .isADirectory
  | some "." =>
    match fs.nodeAt? cs with
    | some .directory => .error .isADirectory
    | some (.file _) => .error .notADirectory
    | none => .error .notFound
  | _ =>
    if cs.any (maxComponentBytes < ·.utf8ByteSize) then .error .nameTooLong else
    match fs.nodeAt? cs with
    | some .directory => .error .isADirectory
    | _ => .ok (fs.put cs (.file bytes))

/-- Whether a listed name is relative and spells plain names only: it does not start with `/`
or with a `.` part, has no `..` part, and has at least one name. -/
def isPlainRelative (path : String) : Bool :=
  match splitSlashes path.toList with
  | [] => false
  | first :: rest =>
    first != "" && first != "." && !(first :: rest).contains ".." && !(names path).isEmpty

/-- Why a listing could not be laid out. -/
inductive ListingError where
  | badName (name : String)
  | io (e : IoError)
  deriving DecidableEq, Repr

/-- Lays out a listing in order: each name must be plain and relative, a directory entry makes
its directories, and a file entry writes its file. -/
def ofListing : List (String × Node) → Except ListingError FileSystem :=
  List.foldlM (m := Except ListingError) (fun fs (name, node) =>
    if !isPlainRelative name then .error (.badName name) else
    let step := match node with
      | .directory => fs.makeDirsAt name
      | .file bytes => fs.writeFile name bytes
    step.mapError .io) empty

end FileSystem

end ScriptCore
