set_option autoImplicit false

/-! # Output sinks

Output built-ins write text to a sink. A `buffer` keeps the text until it is taken or
cleared; `silent` drops it; `console` sends it to the process's standard output, which keeps
all of it and cannot be read back through the sink. `Sink.output` is what a reader of the
sink sees: the kept text of a buffer, and nothing for the other two. -/

namespace ScriptCore

/-- Where output built-ins send their text. -/
inductive SinkKind where
  | buffer
  | silent
  | console
  deriving DecidableEq, Repr

/-- A sink and the text it has received so far. -/
structure Sink where
  kind : SinkKind
  /-- The text a buffer keeps. -/
  kept : String := ""
  /-- The text sent to standard output. -/
  console : String := ""
  deriving DecidableEq, Repr

namespace Sink

/-- A sink that has received nothing. -/
def empty (kind : SinkKind) : Sink := { kind }

/-- The sink after receiving a text. -/
def write (s : Sink) (text : String) : Sink :=
  match s.kind with
  | .buffer => { s with kept := s.kept ++ text }
  | .silent => s
  | .console => { s with console := s.console ++ text }

/-- The text a reader of the sink sees. -/
def output (s : Sink) : String :=
  match s.kind with
  | .buffer => s.kept
  | _ => ""

/-- The sink with its kept text dropped. -/
def clear (s : Sink) : Sink := { s with kept := "" }

/-- The text a reader sees, and the sink with its kept text dropped. -/
def take (s : Sink) : String × Sink := (s.output, s.clear)

end Sink

end ScriptCore
