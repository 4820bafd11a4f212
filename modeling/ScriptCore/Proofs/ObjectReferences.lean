import ScriptCore.Engine.Session
import ScriptCore.Proofs.MethodCalls

set_option autoImplicit false

/-! # References to objects stay resolved

A value refers to an object by its place in creation order and by the type name of the object
there. A reference resolves in an engine when the engine has an object at that place, of that
type. Every reference an engine hands out resolves in the engine that hands it out
(`Engine.adopt_resolves`), and it keeps resolving, through every operation, whether the
operation finishes or ends the process, and through every step of a host's session.

The invariant behind this is that engines only grow (`Engine.Grows`): an operation may add
objects after the ones there are and may replace an object's state, but it never drops an
object and never changes the type of one, as a method call stores back an object of the type
it was called on (`Instance.typeName_call?`). `Engine.KeepsObjects` says this of one
operation, from every engine; it holds of the engine's steps, is kept by binds, and carries
over to the actions of a session, whose failures on an unbound name leave the engine too.

Main statement: `references_stay_resolved`. -/

namespace ScriptCore

theorem Instance.typeName_call? {i i' : Instance} {name : String} {args : List Value}
    {r : Except EvalError Value} (h : i.call? name args = some (r, i')) :
    i'.typeName = i.typeName := by
  -- a call gives back an object of the same kind, with a new state
  cases i with
  | file f =>
    obtain ⟨_, -, h⟩ := Option.map_eq_some_iff.1 h
    cases h
    rfl
  | probe p =>
    obtain ⟨_, -, h⟩ := Option.map_eq_some_iff.1 h
    cases h
    rfl
  | host k s =>
    obtain ⟨_, -, h⟩ := Option.map_eq_some_iff.1 h
    cases h
    rfl

namespace Engine

/-! ## Resolving and growing -/

/-- A reference resolves in an engine: the engine has an object at its place, of the type it
names. -/
def Resolves (e : Engine) (ref : ObjectRef) : Prop :=
  ∃ inst, e.instance? ref = some inst ∧ ref.typeName = inst.typeName

/-- An engine grows into another when every object of the first is in the second, at its place
and of its type, and any new objects come after them. -/
def Grows (e e' : Engine) : Prop :=
  e.objects.map Instance.typeName <+: e'.objects.map Instance.typeName

theorem Grows.refl (e : Engine) : e.Grows e := List.prefix_refl _

theorem Grows.trans {e₁ e₂ e₃ : Engine} (h₁ : e₁.Grows e₂) (h₂ : e₂.Grows e₃) : e₁.Grows e₃ :=
  List.IsPrefix.trans h₁ h₂

theorem Grows.of_objects_eq {e e' : Engine} (h : e'.objects = e.objects) : e.Grows e' := by
  unfold Grows
  exact h ▸ List.prefix_refl _

theorem resolves_iff {e : Engine} {ref : ObjectRef} :
    e.Resolves ref ↔ (e.objects.map Instance.typeName)[ref.id - 1]? = some ref.typeName := by
  simp only [Resolves, instance?, List.getElem?_map, Option.map_eq_some_iff]
  exact exists_congr fun inst => and_congr_right fun _ => eq_comm

/-- A reference that resolves keeps resolving as the engine grows. -/
theorem Resolves.grows {e e' : Engine} {ref : ObjectRef} (h : e.Resolves ref) (hg : e.Grows e') :
    e'.Resolves ref := by
  rw [resolves_iff] at h ⊢
  obtain ⟨hi, hget⟩ := List.getElem?_eq_some_iff.1 h
  rw [List.prefix_iff_getElem?.1 hg _ hi, hget]

/-- Adding an object keeps the ones there are. -/
theorem grows_append (e : Engine) (inst : Instance) :
    e.Grows { e with objects := e.objects ++ [inst] } := by
  simp [Grows]

/-- Replacing an object by one of the same type keeps every object's type. -/
theorem grows_set {e : Engine} {ref : ObjectRef} {inst inst' : Instance}
    (h : e.instance? ref = some inst) (ht : inst'.typeName = inst.typeName) :
    e.Grows { e with objects := e.objects.set (ref.id - 1) inst' } := by
  obtain ⟨hi, hget⟩ := List.getElem?_eq_some_iff.1 h
  have hlen : ref.id - 1 < (e.objects.map Instance.typeName).length := by simpa using hi
  have hname : (e.objects.map Instance.typeName)[ref.id - 1] = inst'.typeName := by
    rw [List.getElem_map, hget, ht]
  have hmap : (e.objects.map Instance.typeName).set (ref.id - 1) inst'.typeName =
      e.objects.map Instance.typeName := by
    rw [← hname, List.set_getElem_self]
  simp only [Grows, List.map_set, hmap]
  exact List.prefix_refl _

/-! ## Operations that keep objects -/

/-- The engine a run leaves, whether the operation finished or ended the process. -/
def after {α : Type} : EStateM.Result EvalError Engine α → Engine
  | .ok _ e => e
  | .error _ e => e

/-- Run from the engine `e`, the operation leaves an engine that has grown from `e`. -/
def KeepsObjectsAt {α : Type} (m : EngineM α) (e : Engine) : Prop := e.Grows (after (m.run e))

/-- The operation keeps objects from every engine. -/
def KeepsObjects {α : Type} (m : EngineM α) : Prop := ∀ e, KeepsObjectsAt m e

namespace KeepsObjects

theorem of_run {α : Type} {m : EngineM α} (h : ∀ e, ∃ a, m.run e = .ok a e) : KeepsObjects m :=
  fun e => by
    obtain ⟨a, ha⟩ := h e
    rw [KeepsObjectsAt, ha]
    exact Grows.refl e

theorem pure {α : Type} (a : α) : KeepsObjects (Pure.pure a : EngineM α) :=
  of_run fun _ => ⟨a, rfl⟩

theorem get : KeepsObjects (MonadState.get : EngineM Engine) :=
  of_run fun e => ⟨e, rfl⟩

/-- A step, then a continuation that keeps objects from wherever the step left the engine. -/
theorem bindAt {α β : Type} {m : EngineM α} {f : α → EngineM β} {e : Engine}
    (hm : KeepsObjectsAt m e) (hf : ∀ a e', m.run e = .ok a e' → KeepsObjectsAt (f a) e') :
    KeepsObjectsAt (m >>= f) e := by
  unfold KeepsObjectsAt at hm ⊢
  rw [EStateM.run_bind]
  cases h : m.run e with
  | ok a e' =>
    rw [h] at hm
    exact hm.trans (hf a e' h)
  | error err e' =>
    rw [h] at hm
    exact hm

theorem bind {α β : Type} {m : EngineM α} {f : α → EngineM β} (hm : KeepsObjects m)
    (hf : ∀ a, KeepsObjects (f a)) : KeepsObjects (m >>= f) :=
  fun e => bindAt (hm e) fun a e' _ => hf a e'

/-- A read of the engine, then a continuation that keeps objects from the engine read. -/
theorem get_bind {β : Type} {f : Engine → EngineM β} (hf : ∀ e, KeepsObjectsAt (f e) e) :
    KeepsObjects (MonadState.get >>= f) :=
  fun e => bindAt (get e) fun a e' h => by
    cases h
    exact hf e

theorem map {α β : Type} (g : α → β) {m : EngineM α} (hm : KeepsObjects m) :
    KeepsObjects (g <$> m) := by
  rw [← bind_pure_comp]
  exact hm.bind fun a => pure (g a)

end KeepsObjects

/-! ## The engine's steps -/

theorem narrow_keeps {α : Type} (r : Except EvalError α) : KeepsObjects (narrow r) := by
  intro e
  unfold KeepsObjectsAt
  rw [narrow_run]
  -- a narrowing returns or ends the process, with the engine as it was
  cases r with
  | ok v => exact Grows.refl e
  | error err =>
    dsimp only
    split <;> exact Grows.refl e

/-- The reference `adopt` hands out resolves, to the object adopted, in the engine it leaves. -/
theorem adopt_resolves (inst : Instance) (e : Engine) :
    ∃ ref, (adopt inst).run e = .ok (.object ref) { e with objects := e.objects ++ [inst] } ∧
      ({ e with objects := e.objects ++ [inst] } : Engine).instance? ref = some inst ∧
      ref.typeName = inst.typeName := by
  refine ⟨⟨e.objects.length + 1, inst.typeName⟩, rfl, ?_, rfl⟩
  simp [instance?]

theorem adopt_keeps (inst : Instance) : KeepsObjects (adopt inst) := fun e =>
  grows_append e inst

theorem runNative_keeps (body : Native) (args : List Value) : KeepsObjects (runNative body args) :=
  fun e => (Grows.of_objects_eq rfl : e.Grows { e with sink := (body.run args e.sink).2 })

theorem binary_keeps (op : BinaryOp) (l r : Value) : KeepsObjects (binary op l r) :=
  KeepsObjects.of_run fun _ => ⟨_, rfl⟩

theorem call_keeps (callee : Value) (args : List Value) : KeepsObjects (call callee args) := by
  refine (narrow_keeps _).bind fun r => ?_
  cases r with
  | error err => exact KeepsObjects.pure _
  | ok f => exact (runNative_keeps _ args).bind narrow_keeps

theorem callValue_keeps (callee : Value) (args : List Value) :
    KeepsObjects (callValue callee args) := by
  unfold callValue
  split
  · exact KeepsObjects.pure _
  · exact runNative_keeps _ args

/-- Each operation that builds an object keeps it after the ones there are. -/
theorem adopt_bind_keeps (inst : Instance) :
    KeepsObjects (do return Except.ok (← adopt inst) : EngineM (Except EvalError Value)) :=
  (adopt_keeps inst).bind fun _ => KeepsObjects.pure _

theorem construct_keeps (capability : String) (arg : Value) :
    KeepsObjects (construct capability arg) := by
  refine KeepsObjects.get_bind fun e => ?_
  dsimp only
  refine ((narrow_keeps _).bind fun r => ?_) e
  cases r with
  | error err => exact KeepsObjects.pure _
  | ok inst => exact adopt_bind_keeps inst

theorem openFile_keeps (path : String) : KeepsObjects (openFile path) := by
  refine KeepsObjects.get_bind fun e => ?_
  split
  · exact KeepsObjects.pure _ e
  · exact adopt_bind_keeps _ e

theorem wrapProbe_keeps (arg : Value) : KeepsObjects (wrapProbe arg) := by
  unfold wrapProbe
  split
  · exact KeepsObjects.pure _
  · exact adopt_bind_keeps _

/-- A method call stores back an object of the type it was called on. -/
theorem store_answer_keeps {e : Engine} {ref : ObjectRef} {method : String} {args : List Value}
    {r : Except EvalError Value} {inst : Instance}
    (h : ((e.instance? ref).bind fun i => i.call? method args) = some (r, inst)) :
    KeepsObjectsAt (store ref inst) e := by
  obtain ⟨i, hi, hcall⟩ := Option.bind_eq_some_iff.1 h
  exact grows_set hi (Instance.typeName_call? hcall)

theorem callMethod_keeps (receiver : Value) (method : String) (args : List Value) :
    KeepsObjects (callMethod receiver method args) := by
  refine (narrow_keeps _).bind fun r => ?_
  cases r with
  | error err => exact KeepsObjects.pure _
  | ok ref =>
    refine KeepsObjects.get_bind fun e => ?_
    dsimp only
    split
    · rename_i h
      exact KeepsObjects.bindAt (store_answer_keeps h) fun _ e' _ => narrow_keeps _ e'
    · split <;> exact KeepsObjects.pure _ e

theorem rawMethod_keeps (ref : ObjectRef) (method : String) (args : List Value) :
    KeepsObjects (rawMethod ref method args) := by
  refine KeepsObjects.get_bind fun e => ?_
  split
  · rename_i h
    exact KeepsObjects.bindAt (store_answer_keeps h) fun _ e' _ => KeepsObjects.pure _ e'
  · exact KeepsObjects.pure _ e

theorem output_keeps (b : Builtin) (args : List Value) : KeepsObjects (output b args) :=
  runNative_keeps _ args

theorem readOutput_keeps : KeepsObjects readOutput :=
  KeepsObjects.get_bind fun e => KeepsObjects.pure _ e

theorem takeOutput_keeps : KeepsObjects takeOutput :=
  fun e => (Grows.of_objects_eq rfl : e.Grows { e with sink := e.sink.take.2 })

theorem clearOutput_keeps : KeepsObjects clearOutput :=
  fun e => (Grows.of_objects_eq rfl : e.Grows { e with sink := e.sink.clear })

/-! ## Answers that refer to new objects -/

/-- Building an object under a registered name answers with a reference to it, of that type
name, that resolves in the engine left, under every mismatch policy. -/
theorem construct_answer {n : String} {a v : Value} {e e' : Engine}
    (h : (construct n a).run e = .ok (.ok v) e') :
    ∃ ref, v = .object ref ∧ ref.typeName = n ∧ e'.Resolves ref := by
  rw [construct, EStateM.run_bind, EStateM.run_get] at h
  dsimp only at h
  cases hb : e.registry.construct e.files n a with
  | error err =>
    rw [hb, mapError_error, EStateM.run_bind, narrow_run] at h
    -- the error is returned or ends the process, and neither is an answer
    dsimp only at h
    by_cases hf : e.isFatal (err.withNote ("while constructing `" ++ n ++ "`"))
    · rw [if_pos hf] at h
      cases h
    · rw [if_neg hf] at h
      cases h
  | ok inst =>
    obtain ⟨ref, hrun, hinst, hty⟩ := adopt_resolves inst e
    rw [hb, mapError_ok, EStateM.run_bind, narrow_run] at h
    dsimp only at h
    rw [EStateM.run_bind, hrun] at h
    cases h
    exact ⟨ref, rfl, hty.trans (Registry.typeName_construct hb), inst, hinst, hty⟩

/-- Opening a file answers with a reference to a `file` that resolves in the engine left. -/
theorem openFile_answer {path : String} {v : Value} {e e' : Engine}
    (h : (openFile path).run e = .ok (.ok v) e') :
    ∃ ref, v = .object ref ∧ ref.typeName = FileHandle.typeName ∧ e'.Resolves ref := by
  rw [openFile, EStateM.run_bind, EStateM.run_get] at h
  dsimp only at h
  cases ho : FileHandle.openPath e.files path with
  | error err =>
    rw [ho] at h
    cases h
  | ok f =>
    obtain ⟨ref, hrun, hinst, hty⟩ := adopt_resolves (.file f) e
    rw [ho] at h
    dsimp only at h
    rw [EStateM.run_bind, hrun] at h
    cases h
    exact ⟨ref, rfl, hty, _, hinst, hty⟩

/-- Wrapping a probe answers with a reference to a `probe` that resolves in the engine left. -/
theorem wrapProbe_answer {arg v : Value} {e e' : Engine}
    (h : (wrapProbe arg).run e = .ok (.ok v) e') :
    ∃ ref, v = .object ref ∧ ref.typeName = Probe.typeName ∧ e'.Resolves ref := by
  unfold wrapProbe at h
  cases hp : Probe.construct arg with
  | error err =>
    rw [hp] at h
    cases h
  | ok p =>
    obtain ⟨ref, hrun, hinst, hty⟩ := adopt_resolves (.probe p) e
    rw [hp] at h
    dsimp only at h
    rw [EStateM.run_bind, hrun] at h
    cases h
    exact ⟨ref, rfl, hty, _, hinst, hty⟩

end Engine

/-! ## A host's session -/

open Engine

/-- An action's work keeps objects from every engine, whether it answers, stops at an unbound
name or ends the process. -/
def StepKeeps {α : Type} (x : StepM α) : Prop := KeepsObjects x.run

namespace StepKeeps

theorem pure {α : Type} (a : α) : StepKeeps (Pure.pure a : StepM α) := KeepsObjects.pure _

theorem throw {α : Type} (name : String) : StepKeeps (MonadExcept.throw name : StepM α) :=
  KeepsObjects.pure _

theorem lift {α : Type} {m : EngineM α} (hm : KeepsObjects m) :
    StepKeeps (MonadLiftT.monadLift m : StepM α) :=
  hm.map _

theorem bind {α β : Type} {x : StepM α} {f : α → StepM β} (hx : StepKeeps x)
    (hf : ∀ a, StepKeeps (f a)) : StepKeeps (x >>= f) := by
  unfold StepKeeps
  rw [ExceptT.run_bind]
  refine KeepsObjects.bind hx fun r => ?_
  cases r with
  | ok a => exact hf a
  | error name => exact KeepsObjects.pure _

end StepKeeps

namespace Action

theorem value_keeps (env : Bindings) (t : Term) : StepKeeps (value env t) := by
  unfold value
  split
  · exact StepKeeps.pure _
  · exact StepKeeps.throw _

theorem values_keeps (env : Bindings) (ts : List Term) : StepKeeps (values env ts) := by
  unfold values
  split
  · exact StepKeeps.pure _
  · exact StepKeeps.throw _

/-- Every action keeps objects: it reads the values it names, then runs engine operations, each
of which keeps them. -/
theorem perform_keeps (env : Bindings) (act : Action) : StepKeeps (perform env act) := by
  cases act with
  | binary left right symbol =>
    refine (value_keeps env left).bind fun l => (value_keeps env right).bind fun r => ?_
    split
    · exact (StepKeeps.lift (binary_keeps _ l r)).bind fun _ => StepKeeps.pure _
    · exact StepKeeps.pure _
  | call callee args =>
    exact (value_keeps env callee).bind fun f => (values_keeps env args).bind fun vs =>
      (StepKeeps.lift (call_keeps f vs)).bind fun _ => StepKeeps.pure _
  | callValue callee args =>
    exact (value_keeps env callee).bind fun f => (values_keeps env args).bind fun vs =>
      (StepKeeps.lift (callValue_keeps f vs)).bind fun _ => StepKeeps.pure _
  | construct capability arg =>
    exact (value_keeps env arg).bind fun v =>
      (StepKeeps.lift (construct_keeps capability v)).bind fun _ => StepKeeps.pure _
  | callMethod receiver method args =>
    exact (value_keeps env receiver).bind fun r => (values_keeps env args).bind fun vs =>
      (StepKeeps.lift (callMethod_keeps r method vs)).bind fun _ => StepKeeps.pure _
  | openFile path =>
    exact (StepKeeps.lift (openFile_keeps path)).bind fun _ => StepKeeps.pure _
  | wrapProbe arg =>
    exact (value_keeps env arg).bind fun v =>
      (StepKeeps.lift (wrapProbe_keeps v)).bind fun _ => StepKeeps.pure _
  | rawMethod receiver method args =>
    refine (value_keeps env receiver).bind fun r => (values_keeps env args).bind fun vs => ?_
    split
    · exact StepKeeps.pure _
    · exact (StepKeeps.lift (rawMethod_keeps _ method vs)).bind fun _ => StepKeeps.pure _
  | output b args =>
    exact (values_keeps env args).bind fun vs =>
      (StepKeeps.lift (output_keeps b vs)).bind fun _ => StepKeeps.pure _
  | readOutput => exact (StepKeeps.lift readOutput_keeps).bind fun _ => StepKeeps.pure _
  | takeOutput => exact (StepKeeps.lift takeOutput_keeps).bind fun _ => StepKeeps.pure _
  | clearOutput => exact (StepKeeps.lift clearOutput_keeps).bind fun _ => StepKeeps.pure _
  | bind name t => exact (value_keeps env t).bind fun _ => StepKeeps.pure _
  | narrow t shape =>
    exact (value_keeps env t).bind fun v =>
      (StepKeeps.lift (narrow_keeps _)).bind fun _ => StepKeeps.pure _
  | builtin name => exact StepKeeps.pure _
  | builtins => exact StepKeeps.pure _
  | describe t => exact (value_keeps env t).bind fun _ => StepKeeps.pure _
  | settings => exact (StepKeeps.lift KeepsObjects.get).bind fun _ => StepKeeps.pure _
  | registry query => exact (StepKeeps.lift KeepsObjects.get).bind fun _ => StepKeeps.pure _
  | objectInfo t query =>
    refine (value_keeps env t).bind fun v => ?_
    split
    · exact StepKeeps.pure _
    · refine (StepKeeps.lift KeepsObjects.get).bind fun e => ?_
      split <;> exact StepKeeps.pure _

end Action

namespace Session

/-- The engine a step leaves: the next session's, or the one the run ends with. -/
def engineAfter : Except (Ending × Engine) (Reply × Session) → Engine
  | .ok (_, s) => s.engine
  | .error (_, e) => e

/-- A step leaves the engine its action leaves, whether the run goes on or ends there. -/
theorem engineAfter_step (s : Session) (st : Step) :
    engineAfter (s.step st) = Engine.after ((Action.perform s.bindings st.action).run s.engine) := by
  unfold step
  cases (Action.perform s.bindings st.action).run s.engine with
  | ok r engine =>
    cases r with
    | ok reply =>
      dsimp only
      split <;> rfl
    | error name => rfl
  | error err engine => rfl

theorem step_grows (s : Session) (st : Step) : s.engine.Grows (engineAfter (s.step st)) := by
  rw [engineAfter_step]
  exact Action.perform_keeps s.bindings st.action s.engine

/-- A run grows the engine it starts from, step by step, to the engine it leaves. -/
theorem runReading_grows {σ : Type} (read : σ → Except String Step) (s : Session)
    (written : List σ) (acc : List Reply) :
    s.engine.Grows (runReading read s written acc).engine := by
  induction written generalizing s acc with
  | nil => exact Grows.refl _
  | cons w rest ih =>
    unfold runReading
    split
    · exact Grows.refl _
    · rename_i st _
      have hstep := step_grows s st
      split
      · rename_i reply next h
        rw [h] at hstep
        exact hstep.trans (ih next _)
      · rename_i ending engine h
        rw [h] at hstep
        exact hstep

end Session

/-- Every reference an engine hands out resolves, and keeps resolving. `adopt` answers with a
reference to the object it adds, of that object's type; building an object by name, opening a
file and wrapping a probe, whenever they answer with a value, answer with a reference of the type
built that resolves in the engine they leave, under every mismatch policy. A reference that
resolves in an engine resolves in the engine every action of a session leaves, whether the action
answers, stops at an unbound name or ends the process, and so in the engine a whole session
leaves. -/
theorem references_stay_resolved :
    (∀ (inst : Instance) (e : Engine), ∃ ref e', (Engine.adopt inst).run e = .ok (.object ref) e' ∧
      e'.instance? ref = some inst ∧ ref.typeName = inst.typeName) ∧
    (∀ (n : String) (a v : Value) (e e' : Engine), (Engine.construct n a).run e = .ok (.ok v) e' →
      ∃ ref, v = .object ref ∧ ref.typeName = n ∧ e'.Resolves ref) ∧
    (∀ (path : String) (v : Value) (e e' : Engine),
      (Engine.openFile path).run e = .ok (.ok v) e' →
        ∃ ref, v = .object ref ∧ ref.typeName = FileHandle.typeName ∧ e'.Resolves ref) ∧
    (∀ (arg v : Value) (e e' : Engine), (Engine.wrapProbe arg).run e = .ok (.ok v) e' →
      ∃ ref, v = .object ref ∧ ref.typeName = Probe.typeName ∧ e'.Resolves ref) ∧
    (∀ (env : Bindings) (act : Action) (e : Engine) (ref : ObjectRef), e.Resolves ref →
      (Engine.after ((Action.perform env act).run e)).Resolves ref) ∧
    (∀ (e : Engine) (steps : List Step) (ref : ObjectRef), e.Resolves ref →
      (Session.run e steps).engine.Resolves ref) := by
  refine ⟨fun inst e => ?_, fun _ _ _ _ _ => construct_answer, fun _ _ _ _ => openFile_answer,
    fun _ _ _ _ => wrapProbe_answer, fun env act e ref h => ?_, fun e steps ref h => ?_⟩
  · obtain ⟨ref, hrun, hinst, hty⟩ := adopt_resolves inst e
    exact ⟨ref, _, hrun, hinst, hty⟩
  · exact h.grows (Action.perform_keeps env act e)
  · exact h.grows (Session.runReading_grows Except.ok ⟨e, []⟩ steps [])

/-- The first probe an engine wraps is its first object, and a session that calls it and then
fails to open a file keeps the reference to it resolved. -/
theorem first_probe_stays_resolved :
    (Engine.wrapProbe (.int 1)).run (Engine.standard FileSystem.empty) =
        .ok (.ok (.object ⟨1, "probe"⟩))
          { Engine.standard FileSystem.empty with objects := [.probe ⟨.int 1⟩] } ∧
      Engine.Resolves { Engine.standard FileSystem.empty with objects := [.probe ⟨.int 1⟩] }
        ⟨1, "probe"⟩ ∧
      (Session.run { Engine.standard FileSystem.empty with objects := [.probe ⟨.int 1⟩] }
        [{ action := .callMethod (.lit (.object ⟨1, "probe"⟩)) "echo" [.lit (.str "x")] },
          { action := .openFile "missing" }]).engine.Resolves ⟨1, "probe"⟩ :=
  ⟨rfl, ⟨_, rfl, rfl⟩, references_stay_resolved.2.2.2.2.2 _ _ _ ⟨_, rfl, rfl⟩⟩

end ScriptCore
