import ScriptCore.Capability.MethodTable
import ScriptCore.Capability.Host
import ScriptCore.Text.Utf8

set_option autoImplicit false

/-! # Files

A `FileHandle` is an open file: the path it was opened by, what the path named, and how far
it has been read. Opening fails as resolving the path fails, with the path and the system's
text. A directory opens, but reading it fails. `read` takes no arguments and returns the rest
of the file decoded as UTF-8, each ill-formed part replaced by `U+FFFD`, and moves to the end,
so a second read returns the empty text. -/

namespace ScriptCore

/-- An open file. -/
structure FileHandle where
  path : String
  node : Node
  position : Nat := 0
  deriving DecidableEq, Repr

namespace FileHandle

/-- The capability type name of files. -/
def typeName : String := "file"

/-- Opens a path. -/
def openPath (fs : FileSystem) (path : String) : Except EvalError FileHandle :=
  match fs.resolve path with
  | .ok node => .ok { path, node }
  | .error io => .error (.ofKind (.resourceUnavailable path io.message))

/-- Reads the rest of the file. -/
def read (h : FileHandle) : Except EvalError Value × FileHandle :=
  match h.node with
  | .directory => (.error (.ofKind (.resourceUnavailable h.path IoError.isADirectory.message)), h)
  | .file bytes =>
    (.ok (.str (Text.decodeLossy (bytes.drop h.position))), { h with position := bytes.length })

/-- The methods of a file. -/
def methods : MethodTable FileHandle :=
  MethodTable.empty.insert "read" 0 fun h _ => h.read

/-- Opens the path a configuration value gives, which must be a text. -/
def construct (fs : FileSystem) (arg : Value) : Except EvalError FileHandle :=
  match arg.asStr with
  | .ok path => openPath fs path
  | .error e => .error (e.withNote "`file` takes the path as a string")

end FileHandle

end ScriptCore
