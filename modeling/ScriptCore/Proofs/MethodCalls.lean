import ScriptCore.Proofs.MethodTables
import ScriptCore.Proofs.MismatchPolicy

set_option autoImplicit false

/-! # Calling a method: one outcome for every call

`Engine.callMethod` decides a call in three layers: the engine checks that the receiver is an
object, the object's table finds the method or not, and the method checks its number of
arguments before its body runs. Under the `propagate` mismatch policy no narrowing ends the
process, and every call has exactly one of four outcomes:

* the receiver is no object: a type mismatch naming `instance` and the receiver's type name,
  with the note `calling method `m``;
* the object has no method `m`: `NULL` under lenient operators, and under strict ones an
  undefined method naming `m` and the object's type name, with no note;
* `m` takes `k` arguments and the call gives another number: an arity error with the note
  `in method `m` of T`, and the object keeps its state, since the body never ran;
* otherwise the body's result, an error getting the same note last, and the body's new state
  of the object stored.

The engine's other objects, its sink and its settings never change. Whether an object has a
method, whether it reports an arity for it and whether a call finds it agree, as all three read
the same table entry. Main statement: `Engine.callMethod_outcomes`. -/

namespace ScriptCore

section MapError

variable {ε ε' α : Type} (f : ε → ε')

theorem mapError_ok (a : α) : (Except.ok a : Except ε α).mapError f = .ok a := rfl

theorem mapError_error (e : ε) : (Except.error e : Except ε α).mapError f = .error (f e) := rfl

end MapError

theorem Value.asObject_of_shape_ne {v : Value} (hv : v.shape ≠ .object) :
    v.asObject = .error (Value.mismatch .object v) := by
  cases v <;> first | rfl | exact absurd rfl hv

namespace Engine

variable {e : Engine}

/-- Under `propagate`, a narrowing passes every result on. -/
theorem narrow_run_of_propagate {α : Type} (hp : e.settings.onMismatch = .propagate)
    (r : Except EvalError α) : (narrow r).run e = .ok r e := by
  rw [narrow_run]
  cases r with
  | ok v => rfl
  | error err => simp [isFatal, hp]

/-- Storing an object's own state back changes nothing. -/
theorem set_instance_self {ref : ObjectRef} {inst : Instance} (h : e.instance? ref = some inst) :
    { e with objects := e.objects.set (ref.id - 1) inst } = e := by
  obtain ⟨hlt, hget⟩ := List.getElem?_eq_some_iff.1 h
  rw [← hget, List.set_getElem_self hlt]

/-- A receiver that is no object: a type mismatch noting the method, and nothing changes. -/
theorem callMethod_run_of_not_object (hp : e.settings.onMismatch = .propagate) {v : Value}
    (hv : v.shape ≠ .object) (m : String) (args : List Value) :
    (callMethod v m args).run e =
      .ok (.error ((Value.mismatch .object v).withNote ("calling method `" ++ m ++ "`"))) e := by
  simp only [callMethod, EStateM.run_bind, Value.asObject_of_shape_ne hv, mapError_error,
    narrow_run_of_propagate hp]
  rfl

/-- A method the object has: its answer, an error noted with the method and the type, and its
new state stored. -/
theorem callMethod_run_of_call? (hp : e.settings.onMismatch = .propagate) {ref : ObjectRef}
    {inst : Instance} (hinst : e.instance? ref = some inst) {m : String} {args : List Value}
    {r : Except EvalError Value} {inst' : Instance} (hcall : inst.call? m args = some (r, inst')) :
    (callMethod (.object ref) m args).run e =
      .ok (r.mapError (·.withNote ("in method `" ++ m ++ "` of " ++ ref.typeName)))
        { e with objects := e.objects.set (ref.id - 1) inst' } := by
  -- the engine after the store keeps the settings, so its narrowing passes the answer on too
  have hp' : ({ e with objects := e.objects.set (ref.id - 1) inst' } : Engine).settings.onMismatch
      = .propagate := hp
  simp only [callMethod, Value.asObject, mapError_ok, EStateM.run_bind,
    narrow_run_of_propagate hp, EStateM.run_get, hinst, Option.bind_some, hcall, store,
    EStateM.run_modify, narrow_run_of_propagate hp']

/-- A method the object lacks: the operator policy answers, and nothing changes. -/
theorem callMethod_run_of_call?_none (hp : e.settings.onMismatch = .propagate) {ref : ObjectRef}
    {inst : Instance} (hinst : e.instance? ref = some inst) {m : String} {args : List Value}
    (hcall : inst.call? m args = none) :
    (callMethod (.object ref) m args).run e =
      .ok (match e.settings.operators with
        | .lenient => .ok .null
        | .strict => .error (.ofKind (.undefinedMethod m ref.typeName))) e := by
  simp only [callMethod, Value.asObject, mapError_ok, EStateM.run_bind,
    narrow_run_of_propagate hp, EStateM.run_get, hinst, Option.bind_some, hcall]
  cases e.settings.operators <;> rfl

/-- Under `propagate`, a method call has one of four outcomes: a receiver that is no object is a
type mismatch noting the method; a method the object lacks is `NULL` under lenient operators
and an undefined method without notes under strict ones; a wrong number of arguments is an
arity error noting the method and the type, with the object unchanged; and otherwise the
method's body answers, an error noted the same way last, and the object takes the body's new
state. Having a method, reporting its arity and finding it by a call agree. -/
theorem callMethod_outcomes (e : Engine) (hp : e.settings.onMismatch = .propagate) (m : String)
    (args : List Value) :
    (∀ v : Value, v.shape ≠ .object →
      (callMethod v m args).run e =
        .ok (.error ⟨.typeMismatch "instance" v.typeName, ["calling method `" ++ m ++ "`"]⟩) e) ∧
    (∀ (ref : ObjectRef) (inst : Instance), e.instance? ref = some inst →
      ref.typeName = inst.typeName →
      (inst.arity? m = none →
        (callMethod (.object ref) m args).run e =
          .ok (match e.settings.operators with
            | .lenient => .ok .null
            | .strict => .error ⟨.undefinedMethod m inst.typeName, []⟩) e) ∧
      (∀ k, inst.arity? m = some k → args.length ≠ k →
        (callMethod (.object ref) m args).run e =
          .ok (.error ⟨.arityMismatch m k args.length,
            ["in method `" ++ m ++ "` of " ++ inst.typeName]⟩) e) ∧
      (∀ k body, inst.body? m = some (k, body) → args.length = k →
        (callMethod (.object ref) m args).run e =
          .ok ((body args).1.mapError
              (·.withNote ("in method `" ++ m ++ "` of " ++ inst.typeName)))
            { e with objects := e.objects.set (ref.id - 1) (body args).2 })) ∧
    (∀ inst : Instance, inst.hasMethod m = (inst.arity? m).isSome ∧
      (inst.arity? m).isSome = (inst.call? m args).isSome) := by
  refine ⟨fun v hv => callMethod_run_of_not_object hp hv m args,
    fun ref inst hinst htype =>
      ⟨fun hnone => ?_, fun k hk hlen => ?_, fun k body hbody hlen => ?_⟩,
    fun inst => ⟨rfl, inst.hasMethod_eq_call?_isSome m args⟩⟩
  · -- no entry: the call finds nothing either
    have hcall : inst.call? m args = none := by
      rw [Instance.call?_eq]
      rw [Instance.arity?_eq, Option.map_eq_none_iff] at hnone
      rw [hnone, Option.map_none]
    rw [callMethod_run_of_call?_none hp hinst hcall, htype]
    rfl
  · -- the entry's arity differs: the call is an arity error and the instance stays
    obtain ⟨⟨k', body⟩, hbody, rfl⟩ :=
      Option.map_eq_some_iff.1 ((Instance.arity?_eq _ _).symm.trans hk)
    have hcall : inst.call? m args =
        some (.error (.ofKind (.arityMismatch m k' args.length)), inst) := by
      rw [Instance.call?_eq, hbody, Option.map_some, if_neg hlen]
    rw [callMethod_run_of_call? hp hinst hcall, set_instance_self hinst, htype]
    rfl
  · have hcall : inst.call? m args = some (body args) := by
      rw [Instance.call?_eq, hbody, Option.map_some, if_pos hlen]
    rw [callMethod_run_of_call? hp hinst hcall, htype]

/-- The engine with default settings holding one probe: calling `echo`, which takes one
argument, with two is an arity error noted with the method and the type, and the probe stays. -/
theorem callMethod_echo_arity :
    (callMethod (.object ⟨1, "probe"⟩) "echo" [.int 1, .int 2]).run
        { Engine.create Settings.default Registry.standard .buffer FileSystem.empty with
          objects := [.probe ⟨.int 5⟩] } =
      .ok (.error ⟨.arityMismatch "echo" 1 2, ["in method `echo` of probe"]⟩)
        { Engine.create Settings.default Registry.standard .buffer FileSystem.empty with
          objects := [.probe ⟨.int 5⟩] } :=
  ((callMethod_outcomes _ rfl "echo" [.int 1, .int 2]).2.1 ⟨1, "probe"⟩ (.probe ⟨.int 5⟩) rfl rfl
    ).2.1 1 (by decide) (by decide)

end Engine

end ScriptCore
