import ScriptCore.Proofs.FileReads
import ScriptCore.Proofs.MethodCalls

set_option autoImplicit false

/-! # Notes on construction errors

A capability object is built in two layers, and each may add a note to an error on its way out:
the kind's constructor (a `file` refuses a path that is no text, saying so), and the engine's
`construct`, which adds the note `while constructing `n`` outermost. Under the `propagate`
mismatch policy the engine's narrowing passes every error on, so `construct` gives an object
exactly when the registry builds one, and otherwise the registry's error with its cause and its
notes kept and that one note after them.

Notes come out innermost first: adding notes one by one appends them in order, and the render
of an error writes each note after the cause on a line of its own, while the error's plain text
stays its cause alone.

Main statement: `construct_notes_innermost_first`. -/

namespace ScriptCore

/-! ## Notes and their render -/

namespace EvalError

/-- Adding notes one by one appends them, in order, after the notes the error has. -/
theorem foldl_withNote (e : EvalError) (notes : List String) :
    notes.foldl withNote e = ⟨e.kind, e.notes ++ notes⟩ := by
  induction notes generalizing e with
  | nil => simp
  | cons note rest ih =>
    rw [List.foldl_cons, ih]
    simp [withNote]

/-- The render of an error with more notes is its render, then each added note on a line of its
own. -/
theorem render_append_notes (e : EvalError) (notes : List String) :
    (⟨e.kind, e.notes ++ notes⟩ : EvalError).render =
      e.render ++ String.join (notes.map fun note => "\n  " ++ noteText note) := by
  simp only [render, List.map_append, String.join_append, String.append_assoc]

theorem toString_eq (e : EvalError) : toString e = e.kind.message := rfl

end EvalError

/-! ## Building a file -/

theorem Value.asStr_of_shape_ne {v : Value} (hv : v.shape ≠ .str) :
    v.asStr = .error (Value.mismatch .str v) := by
  cases v <;> first | rfl | exact absurd rfl hv

namespace Registry

variable {r : Registry} {fs : FileSystem}

/-- A registry that holds files refuses to build one from a value that is no text: a type
mismatch naming `string` and the value's type name, noted with what `file` takes. -/
theorem construct_file_of_not_str (hreg : r.contains FileHandle.typeName = true) {a : Value}
    (ha : a.shape ≠ .str) :
    r.construct fs FileHandle.typeName a =
      .error ⟨.typeMismatch "string" a.typeName, ["`file` takes the path as a string"]⟩ := by
  simp only [construct, find?_file hreg, CapabilityKind.construct, FileHandle.construct,
    Value.asStr_of_shape_ne ha]
  rfl

/-- A registry that holds files refuses a path that does not resolve: the path and the system's
reason, with no note. -/
theorem construct_file_of_unresolved (hreg : r.contains FileHandle.typeName = true)
    {path : String} {io : IoError} (hio : fs.resolve path = .error io) :
    r.construct fs FileHandle.typeName (.str path) =
      .error ⟨.resourceUnavailable path io.message, []⟩ := by
  simp only [construct, find?_file hreg, CapabilityKind.construct, FileHandle.construct,
    Value.asStr, FileHandle.openPath, hio]
  rfl

end Registry

/-! ## The engine's `construct` -/

namespace Engine

variable {e : Engine}

/-- The note `construct` adds to a failure. -/
def constructNote (capability : String) : String := "while constructing `" ++ capability ++ "`"

/-- Under `propagate`, an object the registry builds is kept as the engine's newest object, and
the value that refers to it is returned. -/
theorem construct_run_of_ok (hp : e.settings.onMismatch = .propagate) {n : String} {a : Value}
    {inst : Instance} (h : e.registry.construct e.files n a = .ok inst) :
    (construct n a).run e =
      .ok (.ok (.object ⟨e.objects.length + 1, n⟩)) { e with objects := e.objects ++ [inst] } := by
  -- rewrite step by step: unfolding the registry's constructor would reach path resolution
  rw [construct, EStateM.run_bind, EStateM.run_get]
  dsimp only
  rw [h, mapError_ok, EStateM.run_bind, narrow_run_of_propagate hp, ← Registry.typeName_construct h]
  rfl

/-- Under `propagate`, a registry's error is returned with one more note, naming the capability,
and the engine does not change. -/
theorem construct_run_of_error (hp : e.settings.onMismatch = .propagate) {n : String} {a : Value}
    {err : EvalError} (h : e.registry.construct e.files n a = .error err) :
    (construct n a).run e = .ok (.error ⟨err.kind, err.notes ++ [constructNote n]⟩) e := by
  rw [construct, EStateM.run_bind, EStateM.run_get]
  dsimp only
  rw [h, mapError_error, EStateM.run_bind, narrow_run_of_propagate hp]
  rfl

end Engine

/-- Under `propagate`, `construct n a` gives a reference to a new object exactly when the registry
builds one, and otherwise the registry's error, its cause and notes kept and the note
`while constructing `n`` added last. For `file`, a value that is no text is a type mismatch
noted first by the file kind and then by the engine, and a path that does not resolve is an
unavailable resource with the system's reason and the engine's note only. Notes added one by one
render after the error, in order, each on its own line after two spaces and `note: `, and the
error's plain text stays its cause. -/
theorem construct_notes_innermost_first :
    (∀ e : Engine, e.settings.onMismatch = .propagate → ∀ (n : String) (a : Value),
      (∀ inst, e.registry.construct e.files n a = .ok inst →
        (Engine.construct n a).run e =
          .ok (.ok (.object ⟨e.objects.length + 1, n⟩)) { e with objects := e.objects ++ [inst] }) ∧
      (∀ err, e.registry.construct e.files n a = .error err →
        (Engine.construct n a).run e =
          .ok (.error ⟨err.kind, err.notes ++ ["while constructing `" ++ n ++ "`"]⟩) e)) ∧
    (∀ e : Engine, e.settings.onMismatch = .propagate → e.registry.contains "file" = true →
      (∀ a : Value, a.shape ≠ .str →
        (Engine.construct "file" a).run e =
          .ok (.error ⟨.typeMismatch "string" a.typeName,
            ["`file` takes the path as a string", "while constructing `file`"]⟩) e) ∧
      (∀ (path : String) (io : IoError), e.files.resolve path = .error io →
        (Engine.construct "file" (.str path)).run e =
          .ok (.error ⟨.resourceUnavailable path io.message, ["while constructing `file`"]⟩) e)) ∧
    (∀ (err : EvalError) (notes : List String),
      (notes.foldl EvalError.withNote err).render =
        err.render ++ String.join (notes.map fun note => "\n  " ++ "note: " ++ note) ∧
      toString (notes.foldl EvalError.withNote err) = err.kind.message) := by
  refine ⟨fun e hp n a => ⟨fun inst h => Engine.construct_run_of_ok hp h,
      fun err h => Engine.construct_run_of_error hp h⟩,
    fun e hp hreg => ⟨fun a ha => ?_, fun path io hio => ?_⟩, fun err notes => ⟨?_, ?_⟩⟩
  · exact Engine.construct_run_of_error hp (Registry.construct_file_of_not_str hreg ha)
  · exact Engine.construct_run_of_error hp (Registry.construct_file_of_unresolved hreg hio)
  · rw [EvalError.foldl_withNote, EvalError.render_append_notes]
    simp only [EvalError.noteText, String.append_assoc]
  · rw [EvalError.foldl_withNote, EvalError.toString_eq]

/-- An engine with the default settings and no files: building a `file` from an integer is a type
mismatch with both notes, and from the empty path an unavailable resource with the engine's note
only. -/
theorem construct_file_refusals :
    (Engine.construct "file" (.int 3)).run (Engine.standard FileSystem.empty) =
        .ok (.error ⟨.typeMismatch "string" "int",
          ["`file` takes the path as a string", "while constructing `file`"]⟩)
          (Engine.standard FileSystem.empty) ∧
      (Engine.construct "file" (.str "")).run (Engine.standard FileSystem.empty) =
        .ok (.error ⟨.resourceUnavailable "" "No such file or directory (os error 2)",
          ["while constructing `file`"]⟩) (Engine.standard FileSystem.empty) :=
  ⟨(construct_notes_innermost_first.2.1 _ rfl rfl).1 (.int 3) (by decide),
    (construct_notes_innermost_first.2.1 _ rfl rfl).2 "" .notFound rfl⟩

end ScriptCore
