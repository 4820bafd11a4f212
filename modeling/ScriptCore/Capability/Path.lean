import ScriptCore.Capability.FileSystem

set_option autoImplicit false

/-! # Looking paths up

`FileSystem.resolveOn` finds what a path names, one component at a time as the operating system
does. A walk stands inside the working directory, among the directories of the host, or in the
running process's own directory (`Place`). What the working directory holds is the engine's
`FileSystem`; what the host holds, where the working directory hangs in it and which of its file
systems refuse long names are a `HostView`, so the look-up is the same whatever the machine.

Empty components and `.` stay where they are. `..` goes up: from the top of the working
directory to the host directory that holds it, from the root to itself, and from where a link
led, not from the link. Any other component must exist in the directory reached so far. A file
ends the walk: with more components after it, even an empty one from a trailing `/`, the path
names no directory.

A symbolic link holds a path, which the walk follows from `/` when it starts with `/` and from
the link's directory otherwise. A link of the process file system leads straight to its place.
One look-up follows at most `HostView.maxLinks` links of either kind, counting those met inside
a link's own path; the next one fails with `Too many levels of symbolic links`.

A path containing NUL is refused before any look-up, as is one of 4096 bytes or more. A
component longer than 255 bytes fails where the walk reaches it, unless the file system of the
directory reached looks such a name up like any other. -/

namespace ScriptCore

/-- Where a walk of a path stands. -/
inductive Place where
  /-- A directory inside the working directory, by its components (`[]` is the top). -/
  | inside (dir : List String)
  /-- A directory of the host, by its components from the root. -/
  | host (dir : List String)
  /-- A directory of the running process's own entry in `/proc`, by its components below it. -/
  | process (dir : List String)
  deriving DecidableEq, Repr

/-- What stands at a path of the host. -/
inductive HostNode where
  | directory
  /-- A file, of contents the engine is not shown. -/
  | file
  /-- A device file whose device is absent: opening it fails. -/
  | absentDevice
  /-- A symbolic link, holding a path. -/
  | symlink (path : String)
  /-- A link of the process file system, leading straight to a place. -/
  | jump (target : Place)
  /-- A link of the process file system to a file the process holds, such as a pipe. -/
  | heldFile
  deriving DecidableEq, Repr

/-- The host as a look-up sees it. -/
structure HostView where
  /-- What stands at a path of the host, by its components from the root. -/
  entry : List String → Option HostNode
  /-- What stands at a path below the running process's own directory. -/
  processEntry : List String → Option HostNode
  /-- The host directory that holds the working directory. -/
  workParent : List String
  /-- Whether the file system of a host directory refuses names longer than 255 bytes. -/
  limitsNames : List String → Bool
  /-- The most links one look-up follows. -/
  maxLinks : Nat

/-- What a walk finds under a name. -/
inductive Found where
  | missing
  | directory (place : Place)
  | file (bytes : List UInt8)
  /-- Something that names no directory and does not open, for the reason given. -/
  | closed (e : IoError)
  /-- A link: the walk goes on from a place, with the link's own components first. -/
  | link (start : Place) (components : List String)
  /-- A link to a file the process holds, outside the tree. -/
  | heldFile

namespace Place

/-- The directory that `..` leads to. -/
def up (view : HostView) : Place → Place
  | .inside [] => .host view.workParent
  | .inside dir => .inside dir.dropLast
  | .host dir => .host dir.dropLast
  | .process [] => .host ["proc"]
  | .process dir => .process dir.dropLast

/-- The place a name leads to from a directory, before any link is followed. -/
def down : Place → String → Place
  | .inside dir, c => .inside (dir ++ [c])
  | .host dir, c => .host (dir ++ [c])
  | .process dir, c => .process (dir ++ [c])

/-- Whether the file system of a directory refuses names longer than 255 bytes. The working
directory's does; the process file system does not. -/
def limitsNames (view : HostView) : Place → Bool
  | .inside _ => true
  | .host dir => view.limitsNames dir
  | .process _ => false

/-- What a host entry at a place means to a walk standing in the directory `here`. -/
def ofHostNode (here p : Place) : Option HostNode → Found
  | some .directory => .directory p
  | some .file => .file []
  | some .absentDevice => .closed .noDevice
  | some (.symlink path) =>
    .link (if path.startsWith "/" then .host [] else here) (FileSystem.splitSlashes path.toList)
  | some (.jump target) => .link target []
  | some .heldFile => .heldFile
  | none => .missing

/-- What a walk standing in a directory finds under a name. -/
def find (view : HostView) (fs : FileSystem) (here : Place) (c : String) : Found :=
  match here.down c with
  | .inside dir => match fs.nodeAt? dir with
    | some .directory => .directory (.inside dir)
    | some (.file bytes) => .file bytes
    | none => .missing
  | .host dir => ofHostNode here (.host dir) (view.entry dir)
  | .process dir => ofHostNode here (.process dir) (view.processEntry dir)

end Place

namespace FileSystem

/-- Walks the components of a path from a place, handing each link it meets, with the rest of
the path after the link's own components, to `deeper`: a walk that may follow one link less,
or `none` when no more links may be followed. -/
def walkWith (fs : FileSystem) (view : HostView)
    (deeper : Option (Place → List String → Except IoError Node)) :
    Place → List String → Except IoError Node
  | _, [] => .ok .directory
  | here, c :: rest =>
    if c = "" ∨ c = "." then walkWith fs view deeper here rest
    else if c = ".." then walkWith fs view deeper (here.up view) rest
    else if here.limitsNames view && maxComponentBytes < c.utf8ByteSize then .error .nameTooLong
    else match here.find view fs c with
      | .missing => .error .notFound
      | .directory next => walkWith fs view deeper next rest
      | .file bytes => if rest.isEmpty then .ok (.file bytes) else .error .notADirectory
      | .closed e => .error (if rest.isEmpty then e else .notADirectory)
      | .link start components => match deeper with
        | some walk => walk start (components ++ rest)
        | none => .error .tooManyLinks
      | .heldFile => match deeper with
        | some _ => if rest.isEmpty then .ok (.file []) else .error .notADirectory
        | none => .error .tooManyLinks

/-- Walks the components of a path from a place, following at most `links` links. -/
def walk (fs : FileSystem) (view : HostView) : Nat → Place → List String → Except IoError Node
  | 0 => fs.walkWith view none
  | links + 1 => fs.walkWith view (some (fs.walk view links))

/-- What a path names on a host. -/
def resolveOn (fs : FileSystem) (view : HostView) (path : String) : Except IoError Node :=
  if path.toList.contains '\x00' then .error .nulInName
  else if pathLimitBytes ≤ path.utf8ByteSize then .error .nameTooLong
  else if path.isEmpty then .error .notFound
  else
    match splitSlashes path.toList with
    | "" :: rest => fs.walk view view.maxLinks (.host []) rest
    | parts => fs.walk view view.maxLinks (.inside []) parts

end FileSystem

end ScriptCore
