import ScriptCore.Engine.Basic
import ScriptCore.Proofs.StrictEvaluation

set_option autoImplicit false

/-! # The mismatch policy at the engine's narrowing points

Two engines that differ only in their mismatch policy run each engine operation a host calls
(`binary`, `call`, `construct`, `callMethod` and the output built-ins) alike up to the first
type mismatch. Under `propagate` the mismatch is returned as an error; under `abort` the run
ends there, after the same effects, which ends the process with the error's render, notes
included, on the error stream. Every other result, errors of other kinds among them, is the
same under both policies, so no operation under `abort` returns a type mismatch.

`ObeysMismatch m` says this of one operation `m`, from every engine. It holds of `narrow`, of a
`pure` result that is no type mismatch, and it is kept by the three binds the operations are
built of: a narrowing whose continuation passes errors on (`ObeysMismatch.narrow_bind`), a read
of the engine whose continuation does not look at the mismatch policy
(`ObeysMismatch.get_bind`), and a step that changes the engine alike under both policies
(`ObeysMismatch.blind_bind`). Main statement: `facade_obeys_mismatch_policy`. -/

namespace ScriptCore

/-! ## What the operations can return -/

/-- A result that is no type mismatch. -/
def Harmless {α : Type} (r : Except EvalError α) : Prop :=
  ∀ err, r = .error err → err.isTypeMismatch = false

/-- No operator gives a type mismatch. -/
theorem evaluate_harmless (p : OperatorPolicy) (op : BinaryOp) (l r : Value) :
    Harmless (evaluate p op l r) := by
  intro err h
  rcases evaluate_error h with ⟨rfl, -⟩ | ⟨-, a, x, y, -, -, -, hc⟩
  · rfl
  · rcases a.checked_error hc with rfl | rfl <;> rfl

/-- The text of an output built-in fails only on a number of arguments other than one or
two. -/
theorem Builtin.text_error {b : Builtin} {args : List Value} {err : EvalError}
    (h : b.text args = .error err) : err = .ofKind (.arityOutOfRange b.name 1 2 args.length) := by
  unfold Builtin.text at h
  split at h
  · cases h
  · cases h
  · exact (Except.error.inj h).symm

/-- An output built-in fails only on its number of arguments. -/
theorem Builtin.run_harmless (b : Builtin) (args : List Value) (sink : Sink) :
    Harmless (b.run args sink).1 := by
  intro err h
  unfold Builtin.run at h
  split at h
  · cases h
  · rename_i e htext
    cases h
    rw [Builtin.text_error htext]
    rfl

namespace Engine

/-- The engine with another mismatch policy, everything else the same. -/
def withMismatch (e : Engine) (p : MismatchPolicy) : Engine :=
  { e with settings := e.settings.withOnMismatch p }

theorem isFatal_withMismatch (e : Engine) (p : MismatchPolicy) (err : EvalError) :
    (e.withMismatch p).isFatal err = (p == .abort && err.isTypeMismatch) :=
  rfl

/-- How a run under `abort` ends, from the result `r` and the engine `e` that the same run
gives under `propagate`: a type mismatch ends the process at `e`, anything else is returned. -/
def abortOutcome {α : Type} (r : Except EvalError α) (e : Engine) :
    EStateM.Result EvalError Engine (Except EvalError α) :=
  match r with
  | .error err => if err.isTypeMismatch then .error err e else .ok r e
  | .ok _ => .ok r e

/-- From the engine `e`, the operation `m` runs under `propagate` to a result `r` without
ending the process, and under `abort` to the same effects, ending the process exactly where
`r` is a type mismatch. -/
def ObeysMismatchAt {α : Type} (m : EngineM (Except EvalError α)) (e : Engine) : Prop :=
  ∃ (r : Except EvalError α) (e' : Engine),
    m.run (e.withMismatch .propagate) = .ok r (e'.withMismatch .propagate) ∧
    m.run (e.withMismatch .abort) = abortOutcome r (e'.withMismatch .abort)

/-- The operation obeys the mismatch policy from every engine. -/
def ObeysMismatch {α : Type} (m : EngineM (Except EvalError α)) : Prop :=
  ∀ e : Engine, ObeysMismatchAt m e

/-- A step that never ends the process and changes engines alike under every mismatch
policy, with the same answer. -/
def PolicyBlind {β : Type} (x : EngineM β) : Prop :=
  ∀ e : Engine, ∃ (b : β) (e' : Engine),
    ∀ p, x.run (e.withMismatch p) = .ok b (e'.withMismatch p)

theorem abortOutcome_of_harmless {α : Type} {r : Except EvalError α} (h : Harmless r)
    (e : Engine) : abortOutcome r e = .ok r e := by
  cases r with
  | ok v => rfl
  | error err => simp [abortOutcome, h err rfl]

theorem narrow_run {α : Type} (r : Except EvalError α) (e : Engine) :
    (narrow r).run e =
      match r with
      | .error err => if e.isFatal err then .error err e else .ok r e
      | .ok _ => .ok r e := by
  cases r with
  | ok v => rfl
  | error err =>
    simp only [narrow, EStateM.run_bind, EStateM.run_get]
    split <;> rfl

/-- A narrowing passes a result that is no type mismatch on, under every policy. -/
theorem narrow_run_of_harmless {α : Type} {r : Except EvalError α} (h : Harmless r)
    (e : Engine) : (narrow r).run e = .ok r e := by
  rw [narrow_run]
  cases r with
  | ok v => rfl
  | error err => simp [isFatal, h err rfl]

namespace ObeysMismatch

theorem narrow {α : Type} (r : Except EvalError α) : ObeysMismatch (Engine.narrow r) := by
  intro e
  refine ⟨r, e, ?_, ?_⟩
  · rw [narrow_run]
    cases r <;> simp [isFatal_withMismatch]
  · rw [narrow_run]
    cases r with
    | ok v => rfl
    | error err => simp [isFatal_withMismatch, abortOutcome]

theorem pure {α : Type} {r : Except EvalError α} (h : Harmless r) : ObeysMismatch (pure r) :=
  fun e => ⟨r, e, rfl, (abortOutcome_of_harmless h _).symm⟩

/-- A narrowing followed by a continuation that passes its errors on. -/
theorem narrow_bind {α β : Type} (x : Except EvalError β)
    {k : Except EvalError β → EngineM (Except EvalError α)}
    (herr : ∀ err, k (.error err) = Pure.pure (.error err))
    (hok : ∀ b, ObeysMismatch (k (.ok b))) : ObeysMismatch (Engine.narrow x >>= k) := by
  intro e
  cases x with
  | ok b =>
    obtain ⟨r, e', hp, ha⟩ := hok b e
    exact ⟨r, e', hp, ha⟩
  | error err =>
    -- `propagate` returns the error; `abort` ends here exactly on a type mismatch
    refine ⟨.error err, e, ?_, ?_⟩
    · simp [narrow_run, isFatal_withMismatch, herr]
    · by_cases hm : err.isTypeMismatch = true
      · simp [narrow_run, isFatal_withMismatch, abortOutcome, hm]
      · simp [narrow_run, isFatal_withMismatch, abortOutcome, hm, herr]

/-- A read of the engine whose continuation does not depend on the mismatch policy. -/
theorem get_bind {α : Type} {k : Engine → EngineM (Except EvalError α)}
    (hk : ∀ e p, k (e.withMismatch p) = k e) (h : ∀ e, ObeysMismatchAt (k e) e) :
    ObeysMismatch (get >>= k) := by
  intro e
  obtain ⟨r, e', hp, ha⟩ := h e
  refine ⟨r, e', ?_, ?_⟩
  · show (k (e.withMismatch .propagate)).run (e.withMismatch .propagate) = _
    rw [hk]
    exact hp
  · show (k (e.withMismatch .abort)).run (e.withMismatch .abort) = _
    rw [hk]
    exact ha

/-- A step that changes engines alike under both policies, then an obeying continuation. -/
theorem blind_bind {α β : Type} {x : EngineM β} {k : β → EngineM (Except EvalError α)}
    (hx : PolicyBlind x) (hk : ∀ b, ObeysMismatch (k b)) : ObeysMismatch (x >>= k) := by
  intro e
  obtain ⟨b, e₁, hrun⟩ := hx e
  obtain ⟨r, e', hp, ha⟩ := hk b e₁
  refine ⟨r, e', ?_, ?_⟩
  · rw [EStateM.run_bind, hrun]
    exact hp
  · rw [EStateM.run_bind, hrun]
    exact ha

end ObeysMismatch

/-! ## The steps between narrowings -/

theorem runNative_run (body : Native) (args : List Value) (e : Engine) :
    (runNative body args).run e =
      .ok (body.run args e.sink).1 { e with sink := (body.run args e.sink).2 } :=
  rfl

theorem runNative_blind (body : Native) (args : List Value) :
    PolicyBlind (runNative body args) :=
  fun e => ⟨(body.run args e.sink).1, { e with sink := (body.run args e.sink).2 }, fun _ => rfl⟩

theorem adopt_blind (inst : Instance) : PolicyBlind (adopt inst) :=
  fun e => ⟨.object ⟨e.objects.length + 1, inst.typeName⟩, { e with objects := e.objects ++ [inst] },
    fun _ => rfl⟩

theorem store_blind (ref : ObjectRef) (inst : Instance) : PolicyBlind (store ref inst) :=
  fun e => ⟨(), { e with objects := e.objects.set (ref.id - 1) inst }, fun _ => rfl⟩

/-! ## The operations -/

theorem binary_obeys (op : BinaryOp) (l r : Value) : ObeysMismatch (binary op l r) :=
  ObeysMismatch.get_bind (fun _ _ => rfl)
    (fun e => ObeysMismatch.pure (evaluate_harmless _ op l r) e)

theorem call_obeys (callee : Value) (args : List Value) : ObeysMismatch (call callee args) :=
  ObeysMismatch.narrow_bind _ (fun _ => rfl)
    (fun _ => ObeysMismatch.blind_bind (runNative_blind _ args) ObeysMismatch.narrow)

theorem construct_obeys (capability : String) (arg : Value) :
    ObeysMismatch (construct capability arg) := by
  refine ObeysMismatch.get_bind (fun _ _ => rfl) (fun e => ?_)
  dsimp only
  refine ObeysMismatch.narrow_bind _ (fun _ => ?_) (fun inst => ?_) e
  · rfl
  · exact ObeysMismatch.blind_bind (adopt_blind inst) fun v =>
      ObeysMismatch.pure (by rintro _ ⟨⟩)

theorem callMethod_obeys (receiver : Value) (method : String) (args : List Value) :
    ObeysMismatch (callMethod receiver method args) := by
  refine ObeysMismatch.narrow_bind _ (fun _ => rfl) (fun ref => ?_)
  refine ObeysMismatch.get_bind (fun _ _ => rfl) (fun e => ?_)
  dsimp only
  -- a method the object has, run and narrowed; or none, answered by the operator policy
  split
  · exact ObeysMismatch.blind_bind (store_blind ref _) (fun _ => ObeysMismatch.narrow _) e
  · split
    · exact ObeysMismatch.pure (by rintro _ ⟨⟩) e
    · exact ObeysMismatch.pure (by rintro _ ⟨⟩; rfl) e

theorem output_obeys (b : Builtin) (args : List Value) : ObeysMismatch (output b args) := by
  intro e
  refine ⟨(b.run args e.sink).1, { e with sink := (b.run args e.sink).2 }, rfl, ?_⟩
  exact (abortOutcome_of_harmless (Builtin.run_harmless b args e.sink) _).symm

/-- Every engine operation a host calls applies the mismatch policy: under `abort` it ends the
process exactly where it would return a type mismatch under `propagate`, after the same
effects, and otherwise returns what it returns under `propagate`. -/
theorem facade_obeys_mismatch_policy :
    (∀ op l r, ObeysMismatch (binary op l r)) ∧
    (∀ callee args, ObeysMismatch (call callee args)) ∧
    (∀ capability arg, ObeysMismatch (construct capability arg)) ∧
    (∀ receiver method args, ObeysMismatch (callMethod receiver method args)) ∧
    (∀ b args, ObeysMismatch (output b args)) :=
  ⟨binary_obeys, call_obeys, construct_obeys, callMethod_obeys, output_obeys⟩

end Engine

end ScriptCore
