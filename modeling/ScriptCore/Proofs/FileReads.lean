import ScriptCore.Engine.Session
import ScriptCore.Proofs.MismatchPolicy

set_option autoImplicit false

/-! # A file object yields its content once

A file object holds the position its reads have reached, and `read` returns the rest of the
file and moves to its end. Values refer to an object by its identity in the engine, so every
copy of a value reaches the same object and moves the same position, while each object opened
afresh starts at the beginning.

Main statement: `file_object_yields_content_once`. Take a path naming a file that holds the bytes
`c`, and a host that opens it (by the engine's `construct` or directly) and calls methods of the
objects it opened (through the engine's `callMethod` or by asking the object itself), in any
order. Each read with no arguments returns `c` decoded, if no earlier such read reached the same
object, and the empty text otherwise; a read given arguments is an arity error and moves
nothing.

The engine's objects are tracked by one mark per opened object, whether it has been read
(`Engine.withOpened`): an unread object is at the start of the file and a read one at its end.
`FileUse.opening_run` and `FileUse.call_run` are the step lemmas, which move the marks by
`FileUse.afterUse`, and `FileUse.performAll_run` the run lemma, by induction on the uses;
`marksAfter_getD` says a mark is set exactly by an earlier successful read of its object. -/

namespace ScriptCore

/-! ## The uses -/

/-- How a host calls a method of an object: through the engine's `callMethod`, or by asking the
object itself (`rawMethod`). -/
inductive MethodRoute where
  | engine
  | direct

/-- Calls a method of an object by a route. -/
def MethodRoute.call (route : MethodRoute) (ref : ObjectRef) (m : String) (args : List Value) :
    EngineM Reply :=
  match route with
  | .engine => do return .result (← Engine.callMethod (.object ref) m args)
  | .direct => do return .method (← Engine.rawMethod ref m args)

/-- How a host opens a file: through the engine's `construct`, which builds it by the registry,
or directly (`openFile`). -/
inductive OpenRoute where
  | construct
  | direct

/-- Opens a path by a route. -/
def OpenRoute.run (route : OpenRoute) (path : String) : EngineM Reply :=
  match route with
  | .construct => do return .result (← Engine.construct FileHandle.typeName (.str path))
  | .direct => do return .opened (← Engine.openFile path) path

/-- One use of file objects opened on one path: open one more, or call a method of the `k`-th
object opened so far, counting from zero. -/
inductive FileUse where
  | opening (route : OpenRoute)
  | call (route : MethodRoute) (k : Nat) (method : String) (args : List Value)

namespace FileUse

/-- The object the uses open `k`-th, on an engine that held `base` objects before them. -/
def objectRef (base k : Nat) : ObjectRef := ⟨base + k + 1, FileHandle.typeName⟩

/-- Performs a use on the objects opened on `path`. -/
def perform (path : String) (base : Nat) : FileUse → EngineM Reply
  | .opening route => route.run path
  | .call route k m args => route.call (objectRef base k) m args

/-- Performs uses in order, collecting their replies. -/
def performAll (path : String) (base : Nat) : List FileUse → EngineM (List Reply)
  | [] => pure []
  | u :: us => do
    let reply ← u.perform path base
    let replies ← performAll path base us
    return reply :: replies

/-! ## The rule -/

/-- Whether a use opens an object. -/
def opens : FileUse → Bool
  | .opening _ => true
  | .call .. => false

/-- Whether a use reads the `k`-th object with no arguments. -/
def readsFrom (k : Nat) : FileUse → Bool
  | .call _ j m args => j == k && m == "read" && args.isEmpty
  | _ => false

/-- The marks of the opened objects, whether each has been read, after one more use. -/
def afterUse (read : List Bool) : FileUse → List Bool
  | .opening _ => read ++ [false]
  | .call _ k m args => if m = "read" ∧ args = [] then read.set k true else read

/-- The marks after some uses. -/
def marksAfter (read : List Bool) (uses : List FileUse) : List Bool := uses.foldl afterUse read

/-- Whether every call names an object opened by an earlier use, `n` of them opened before. -/
def refersBack : Nat → List FileUse → Bool
  | _, [] => true
  | n, .opening _ :: us => refersBack (n + 1) us
  | n, .call _ k _ _ :: us => decide (k < n) && refersBack n us

end FileUse

/-- A file object's own answer to a call of `m`: `read` with no arguments gives the rest of the
file, which is all of `c` before the first read and nothing after it; `read` with arguments is
an arity error; a file has no other method. -/
def fileAnswer (c : List UInt8) (read : Bool) (m : String) (args : List Value) :
    Option (Except EvalError Value) :=
  if m = "read" then
    some (if args = [] then .ok (.str (if read then "" else Text.decodeLossy c))
      else .error (.ofKind (.arityMismatch "read" 0 args.length)))
  else none

/-- What an opening by a route replies when it answers `r`. -/
def OpenRoute.reply (route : OpenRoute) (path : String) (r : Except EvalError Value) : Reply :=
  match route with
  | .construct => .result r
  | .direct => .opened r path

/-- What a route replies to an object's own answer to a call of `m` on an object of type `t`:
the engine notes an error with the method and the type, and answers a method the object lacks
by the operator policy; asked directly, the object's answer is the reply. -/
def MethodRoute.reply (route : MethodRoute) (p : OperatorPolicy) (m t : String)
    (answer : Option (Except EvalError Value)) : Reply :=
  match route, answer with
  | .engine, some r => .result (r.mapError (·.withNote ("in method `" ++ m ++ "` of " ++ t)))
  | .engine, none =>
    match p with
    | .lenient => .result (.ok .null)
    | .strict => .result (.error (.ofKind (.undefinedMethod m t)))
  | .direct, answer => .method answer

/-- The reply to a use while the opened objects carry the marks `read`. -/
def FileUse.expectedReply (p : OperatorPolicy) (path : String) (c : List UInt8) (base : Nat)
    (read : List Bool) : FileUse → Reply
  | .opening route => route.reply path (.ok (.object (objectRef base read.length)))
  | .call route k m args =>
    route.reply p m FileHandle.typeName (fileAnswer c (read.getD k false) m args)

/-- The result a reply carries: that of an engine operation or of a method asked directly. -/
def Reply.result? : Reply → Option (Except EvalError Value)
  | .result r => some r
  | .opened r _ => some r
  | .method r => r
  | _ => none

/-! ## Opened objects in the engine -/

/-- The file object opened on `path` holding `c`: at the start of the file, or read to its end. -/
def openedFile (path : String) (c : List UInt8) (read : Bool) : Instance :=
  .file ⟨path, .file c, if read then c.length else 0⟩

/-- The engine `e` with objects opened on `path` after those it held, one per mark. -/
def Engine.withOpened (e : Engine) (path : String) (c : List UInt8) (read : List Bool) : Engine :=
  { e with objects := e.objects ++ read.map (openedFile path c) }

section Opened

variable {e : Engine} {path : String} {c : List UInt8}

@[simp] theorem Engine.withOpened_settings (read : List Bool) :
    (e.withOpened path c read).settings = e.settings := rfl

@[simp] theorem Engine.withOpened_registry (read : List Bool) :
    (e.withOpened path c read).registry = e.registry := rfl

@[simp] theorem Engine.withOpened_files (read : List Bool) :
    (e.withOpened path c read).files = e.files := rfl

theorem Engine.withOpened_nil : e.withOpened path c [] = e := by
  simp [Engine.withOpened]

theorem Engine.instance?_withOpened {read : List Bool} {k : Nat} (hk : k < read.length) :
    (e.withOpened path c read).instance? (FileUse.objectRef e.objects.length k) =
      some (openedFile path c (read.getD k false)) := by
  simp [Engine.withOpened, Engine.instance?, FileUse.objectRef, List.getD_eq_getElem?_getD, hk]

/-- Storing the `k`-th opened object moves its mark. -/
theorem Engine.store_withOpened (read : List Bool) (k : Nat) (b : Bool) :
    { e.withOpened path c read with
        objects := (e.withOpened path c read).objects.set
          ((FileUse.objectRef e.objects.length k).id - 1) (openedFile path c b) } =
      e.withOpened path c (read.set k b) := by
  simp [Engine.withOpened, FileUse.objectRef, List.set_append_right, List.map_set]

/-- Keeping one more object opened afresh adds an unread mark. -/
theorem Engine.adopt_withOpened (read : List Bool) :
    { e.withOpened path c read with
        objects := (e.withOpened path c read).objects ++ [openedFile path c false] } =
      e.withOpened path c (read ++ [false]) := by
  simp [Engine.withOpened]

end Opened

/-! ## One use -/

theorem Registry.find?_file {r : Registry} (h : r.contains FileHandle.typeName = true) :
    r.find? FileHandle.typeName = some .file := by
  obtain ⟨k, hk⟩ := Option.isSome_iff_exists.mp h
  unfold Registry.find? at hk
  have hname := List.find?_some hk
  cases k with
  | file => exact hk
  | probe => cases hname
  | host k => exact absurd (by simpa [CapabilityKind.typeName] using hname) k.typeName_fresh.1

theorem FileHandle.openPath_file {fs : FileSystem} {path : String} {c : List UInt8}
    (hfile : fs.resolve path = .ok (.file c)) :
    FileHandle.openPath fs path = .ok ⟨path, .file c, 0⟩ := by
  simp [FileHandle.openPath, hfile]

/-- A registry that holds files builds a file object at the start of the file its path names. -/
theorem Registry.construct_file {r : Registry} {fs : FileSystem} {path : String}
    {c : List UInt8} (hreg : r.contains FileHandle.typeName = true)
    (hfile : fs.resolve path = .ok (.file c)) :
    r.construct fs FileHandle.typeName (.str path) = .ok (openedFile path c false) := by
  simp only [Registry.construct, Registry.find?_file hreg, CapabilityKind.construct,
    FileHandle.construct, Value.asStr, FileHandle.openPath_file hfile]
  rfl

/-! ## A file object's methods -/

section Methods

variable (path : String) (c : List UInt8) (b : Bool)

/-- Reading with no arguments gives the rest of the file and moves to its end. -/
theorem openedFile_read :
    (openedFile path c b).call? "read" [] =
      some (.ok (.str (if b then "" else Text.decodeLossy c)), openedFile path c true) := by
  cases b with
  | false => rfl
  | true =>
    -- a read object is at the end of the file: nothing is left to decode
    simp [openedFile, Instance.call?, FileHandle.methods, MethodTable.call?, MethodTable.get?,
      MethodTable.insert, MethodTable.empty, Method.invoke, FileHandle.read]

/-- Reading with arguments is an arity error, and the object stays where it was. -/
theorem openedFile_read_arity {args : List Value} (h : args ≠ []) :
    (openedFile path c b).call? "read" args =
      some (.error (.ofKind (.arityMismatch "read" 0 args.length)), openedFile path c b) := by
  have hlen : args.length ≠ 0 := by simpa using h
  simp [openedFile, Instance.call?, FileHandle.methods, MethodTable.call?, MethodTable.get?,
    MethodTable.insert, MethodTable.empty, Method.invoke, hlen]

/-- A file has no method but `read`. -/
theorem openedFile_call?_of_ne {m : String} (h : m ≠ "read") (args : List Value) :
    (openedFile path c b).call? m args = none := by
  simp [openedFile, Instance.call?, FileHandle.methods, MethodTable.call?, MethodTable.get?,
    MethodTable.insert, MethodTable.empty, Ne.symm h]

end Methods

/-! ## The engine's operations on file objects -/

/-- An error of a method keeps its kind under a note, so it stays no type mismatch. -/
theorem Harmless.withNote {α : Type} {r : Except EvalError α} (h : Harmless r) (note : String) :
    Harmless (r.mapError (·.withNote note)) := by
  intro err herr
  cases r with
  | ok v => cases herr
  | error e =>
    cases herr
    exact h e rfl

section Engine

variable {e : Engine} {path : String} {c : List UInt8}

/-- Constructing a file through an engine that registers files keeps a new object at the start
of the file and answers the value that refers to it. -/
theorem Engine.construct_file_run (hreg : e.registry.contains FileHandle.typeName = true)
    (hfile : e.files.resolve path = .ok (.file c)) :
    (Engine.construct FileHandle.typeName (.str path)).run e =
      .ok (.ok (.object ⟨e.objects.length + 1, FileHandle.typeName⟩))
        { e with objects := e.objects ++ [openedFile path c false] } := by
  rw [Engine.construct, EStateM.run_bind, EStateM.run_get]
  dsimp only
  rw [Registry.construct_file hreg hfile]
  rfl

/-- Opening a file directly keeps a new object at the start of the file and answers the value
that refers to it. -/
theorem Engine.openFile_run (hfile : e.files.resolve path = .ok (.file c)) :
    (Engine.openFile path).run e =
      .ok (.ok (.object ⟨e.objects.length + 1, FileHandle.typeName⟩))
        { e with objects := e.objects ++ [openedFile path c false] } := by
  -- rewrite step by step: `simp` would leave the kernel comparing unfoldings of path resolution
  rw [Engine.openFile, EStateM.run_bind, EStateM.run_get]
  dsimp only
  rw [FileHandle.openPath_file hfile]
  rfl

/-- Opening a path that names a file, by either route, keeps a new object at the start of the
file and answers the value that refers to it. -/
theorem OpenRoute.run_run (route : OpenRoute)
    (hreg : e.registry.contains FileHandle.typeName = true)
    (hfile : e.files.resolve path = .ok (.file c)) :
    (route.run path).run e =
      .ok (route.reply path (.ok (.object ⟨e.objects.length + 1, FileHandle.typeName⟩)))
        { e with objects := e.objects ++ [openedFile path c false] } := by
  cases route with
  | construct =>
    simp only [OpenRoute.run, EStateM.run_bind, Engine.construct_file_run hreg hfile]
    rfl
  | direct =>
    simp only [OpenRoute.run, EStateM.run_bind, Engine.openFile_run hfile]
    rfl

end Engine

/-- An object as a method's receiver passes the narrowing untouched. -/
theorem Engine.narrow_object_run (ref : ObjectRef) (m : String) (e : Engine) :
    (Engine.narrow ((Value.object ref).asObject.mapError
      (·.withNote ("calling method `" ++ m ++ "`")))).run e = .ok (.ok ref) e :=
  Engine.narrow_run_of_harmless (by rintro _ ⟨⟩) e

section Route

variable {e : Engine} {ref : ObjectRef} {inst : Instance} {m : String} {args : List Value}

/-- A method the object has, called by either route: the route's reply to the method's result,
and the object's new state stored. -/
theorem MethodRoute.call_run_of_some (route : MethodRoute) (hinst : e.instance? ref = some inst)
    {r : Except EvalError Value} {inst' : Instance} (hcall : inst.call? m args = some (r, inst'))
    (hr : Harmless r) :
    (route.call ref m args).run e =
      .ok (route.reply e.settings.operators m ref.typeName (some r))
        { e with objects := e.objects.set (ref.id - 1) inst' } := by
  cases route with
  | engine =>
    -- the method's result is no type mismatch, noted or not
    have hnoted := Harmless.withNote hr ("in method `" ++ m ++ "` of " ++ ref.typeName)
    simp only [MethodRoute.call, Engine.callMethod, EStateM.run_bind, Engine.narrow_object_run,
      EStateM.run_get, hinst, Option.bind_some, hcall, Engine.store, EStateM.run_modify,
      Engine.narrow_run_of_harmless hnoted]
    rfl
  | direct =>
    simp only [MethodRoute.call, Engine.rawMethod, EStateM.run_bind, EStateM.run_get, hinst,
      Option.bind_some, hcall, Engine.store, EStateM.run_modify]
    rfl

/-- A method the object lacks, called by either route: the engine answers by its operator
policy, asked directly the object answers nothing, and nothing changes. -/
theorem MethodRoute.call_run_of_none (route : MethodRoute) (hinst : e.instance? ref = some inst)
    (hcall : inst.call? m args = none) :
    (route.call ref m args).run e =
      .ok (route.reply e.settings.operators m ref.typeName none) e := by
  cases route with
  | engine =>
    simp only [MethodRoute.call, Engine.callMethod, EStateM.run_bind, Engine.narrow_object_run,
      EStateM.run_get, hinst, Option.bind_some, hcall]
    cases e.settings.operators <;> rfl
  | direct =>
    simp only [MethodRoute.call, Engine.rawMethod, EStateM.run_bind, EStateM.run_get, hinst,
      Option.bind_some, hcall]
    rfl

end Route

/-! ## A run of uses -/

/-- Setting a mark to the value it has changes nothing. -/
theorem List.set_getD_self {read : List Bool} {k : Nat} (hk : k < read.length) :
    read.set k (read.getD k false) = read := by
  rw [List.getD_eq_getElem?_getD, List.getElem?_eq_getElem hk, Option.getD_some]
  exact List.set_getElem_self hk

namespace FileUse

section Run

variable {e : Engine} {path : String} {c : List UInt8}

theorem opening_run (route : OpenRoute) (hreg : e.registry.contains FileHandle.typeName = true)
    (hfile : e.files.resolve path = .ok (.file c)) (read : List Bool) :
    ((FileUse.opening route).perform path e.objects.length).run (e.withOpened path c read) =
      .ok ((FileUse.opening route).expectedReply e.settings.operators path c e.objects.length read)
        (e.withOpened path c (afterUse read (.opening route))) := by
  have hreg' : (e.withOpened path c read).registry.contains FileHandle.typeName = true := hreg
  have hfile' : (e.withOpened path c read).files.resolve path = .ok (.file c) := hfile
  rw [perform, OpenRoute.run_run route hreg' hfile', Engine.adopt_withOpened]
  simp [expectedReply, afterUse, objectRef, Engine.withOpened, Nat.add_assoc]

theorem call_run (route : MethodRoute) {k : Nat} (m : String) (args : List Value)
    {read : List Bool} (hk : k < read.length) :
    ((FileUse.call route k m args).perform path e.objects.length).run (e.withOpened path c read) =
      .ok ((FileUse.call route k m args).expectedReply e.settings.operators path c
          e.objects.length read)
        (e.withOpened path c (afterUse read (.call route k m args))) := by
  have hinst : (e.withOpened path c read).instance? (objectRef e.objects.length k) =
      some (openedFile path c (read.getD k false)) := Engine.instance?_withOpened hk
  simp only [perform, expectedReply]
  by_cases hm : m = "read"
  · subst hm
    by_cases hargs : args = []
    · -- a read moves the object to the end of the file
      subst hargs
      have hok : Harmless (.ok (.str (if read.getD k false then "" else Text.decodeLossy c)) :
          Except EvalError Value) := by rintro _ ⟨⟩
      rw [MethodRoute.call_run_of_some route hinst (openedFile_read path c _) hok,
        Engine.store_withOpened]
      simp [fileAnswer, afterUse, objectRef]
    · -- a read given arguments fails before it runs, and the object stays where it was
      have harity : Harmless (.error (.ofKind (.arityMismatch "read" 0 args.length)) :
          Except EvalError Value) := by rintro _ ⟨⟩; rfl
      rw [MethodRoute.call_run_of_some route hinst (openedFile_read_arity path c _ hargs) harity,
        Engine.store_withOpened, List.set_getD_self hk]
      simp [fileAnswer, afterUse, objectRef, hargs]
  · rw [MethodRoute.call_run_of_none route hinst (openedFile_call?_of_ne path c _ hm args)]
    simp [fileAnswer, afterUse, objectRef, hm]

/-- A run of uses: the `i`-th reply is the one expected from the marks after the first `i`
uses, and the engine ends holding the objects with the marks after all of them. -/
theorem performAll_run (hreg : e.registry.contains FileHandle.typeName = true)
    (hfile : e.files.resolve path = .ok (.file c)) (uses : List FileUse) (read : List Bool)
    (hrefers : refersBack read.length uses = true) :
    (performAll path e.objects.length uses).run (e.withOpened path c read) =
      .ok (uses.mapIdx fun i u => u.expectedReply e.settings.operators path c e.objects.length
          (marksAfter read (uses.take i)))
        (e.withOpened path c (marksAfter read uses)) := by
  induction uses generalizing read with
  | nil => rfl
  | cons u us ih =>
    -- the first use moves the marks by `afterUse`, and the rest run from there
    obtain ⟨hstep, htail⟩ : (u.perform path e.objects.length).run (e.withOpened path c read) =
          .ok (u.expectedReply e.settings.operators path c e.objects.length read)
            (e.withOpened path c (afterUse read u)) ∧
        refersBack (afterUse read u).length us = true := by
      cases u with
      | opening route =>
        exact ⟨opening_run route hreg hfile read, by simpa [refersBack, afterUse] using hrefers⟩
      | call route k m args =>
        simp only [refersBack, Bool.and_eq_true, decide_eq_true_eq] at hrefers
        have hlen : (afterUse read (.call route k m args)).length = read.length := by
          simp only [afterUse]
          split <;> simp
        exact ⟨call_run route m args hrefers.1, hlen ▸ hrefers.2⟩
    simp only [performAll, EStateM.run_bind, hstep, ih _ htail, List.mapIdx_cons, List.take_zero,
      List.take_succ_cons, marksAfter, List.foldl_cons, List.foldl_nil]
    rfl

end Run

end FileUse

/-! ## The marks -/

theorem List.getD_append_false (read : List Bool) (k : Nat) :
    (read ++ [false]).getD k false = read.getD k false := by
  simp only [List.getD_eq_getElem?_getD, List.getElem?_append]
  split
  · rfl
  · rename_i hk
    have hnone : read[k]? = none := List.getElem?_eq_none (by omega)
    rw [hnone]
    cases k - read.length <;> rfl

theorem List.getD_set_true {read : List Bool} {j : Nat} (hj : j < read.length) (k : Nat) :
    (read.set j true).getD k false = (read.getD k false || j == k) := by
  simp only [List.getD_eq_getElem?_getD, List.getElem?_set, hj, if_true]
  by_cases hjk : j = k
  · simp [hjk]
  · simp [hjk]

namespace FileUse

theorem marksAfter_cons (read : List Bool) (u : FileUse) (us : List FileUse) :
    marksAfter read (u :: us) = marksAfter (afterUse read u) us :=
  rfl

/-- A call other than a read with no arguments reads nothing. -/
theorem readsFrom_call_of_not_read {route : MethodRoute} {j k : Nat} {m : String}
    {args : List Value} (h : ¬(m = "read" ∧ args = [])) :
    readsFrom k (.call route j m args) = false := by
  simp only [readsFrom]
  by_cases hm : m = "read"
  · have hargs : args ≠ [] := fun hargs => h ⟨hm, hargs⟩
    simp [hm, hargs]
  · simp [hm]

/-- A mark is set exactly when a use, since the marks were taken, read its object with no
arguments. -/
theorem marksAfter_getD (read : List Bool) (uses : List FileUse)
    (hrefers : refersBack read.length uses = true) (k : Nat) :
    (marksAfter read uses).getD k false = (read.getD k false || uses.any (readsFrom k)) := by
  induction uses generalizing read with
  | nil => simp [marksAfter]
  | cons u us ih =>
    cases u with
    | opening route =>
      -- a new object is unread, and the marks before it stay
      have hafter : afterUse read (.opening route) = read ++ [false] := rfl
      rw [marksAfter_cons, ih _ (by simpa [refersBack, afterUse] using hrefers), hafter,
        List.getD_append_false]
      rfl
    | call route j m args =>
      simp only [refersBack, Bool.and_eq_true, decide_eq_true_eq] at hrefers
      by_cases hread : m = "read" ∧ args = []
      · -- a read sets the mark of its object
        obtain ⟨rfl, rfl⟩ := hread
        have hafter : afterUse read (.call route j "read" []) = read.set j true := by
          simp [afterUse]
        have hlen : (read.set j true).length = read.length := List.length_set
        rw [marksAfter_cons, hafter, ih _ (hlen ▸ hrefers.2), List.getD_set_true hrefers.1,
          List.any_cons]
        simp [readsFrom, Bool.or_assoc]
      · -- any other call leaves every mark
        have hafter : afterUse read (.call route j m args) = read := by simp [afterUse, hread]
        rw [marksAfter_cons, hafter, ih _ hrefers.2, List.any_cons,
          readsFrom_call_of_not_read hread, Bool.false_or]

theorem marksAfter_length (read : List Bool) (uses : List FileUse) :
    (marksAfter read uses).length = read.length + uses.countP opens := by
  induction uses generalizing read with
  | nil => rfl
  | cons u us ih =>
    rw [marksAfter_cons, ih, List.countP_cons]
    cases u with
    | opening route =>
      simp only [afterUse, opens, List.length_append, List.length_singleton, if_true]
      omega
    | call route k m args =>
      simp only [afterUse, opens]
      split <;> simp

/-- Uses that name only objects opened before them keep doing so when cut short. -/
theorem refersBack_take {n : Nat} {uses : List FileUse} (h : refersBack n uses = true)
    (i : Nat) : refersBack n (uses.take i) = true := by
  induction uses generalizing n i with
  | nil => simp [refersBack]
  | cons u us ih =>
    cases i with
    | zero => rfl
    | succ i =>
      rw [List.take_succ_cons]
      cases u with
      | opening route => exact ih (by simpa [refersBack] using h) i
      | call route k m args =>
        simp only [refersBack, Bool.and_eq_true] at h ⊢
        exact ⟨h.1, ih h.2 i⟩

end FileUse

/-! ## What a host sees -/

theorem OpenRoute.result?_reply (route : OpenRoute) (path : String)
    (r : Except EvalError Value) : (route.reply path r).result? = some r := by
  cases route <;> rfl

theorem MethodRoute.result?_reply_ok (route : MethodRoute) (p : OperatorPolicy) (m t : String)
    (v : Value) : (route.reply p m t (some (.ok v))).result? = some (.ok v) := by
  cases route <;> rfl

/-- An error of a method reaches the host with its kind, noted or not. -/
theorem MethodRoute.result?_reply_error (route : MethodRoute) (p : OperatorPolicy) (m t : String)
    (err : EvalError) :
    ∃ err', (route.reply p m t (some (.error err))).result? = some (.error err') ∧
      err'.kind = err.kind := by
  cases route with
  | engine => exact ⟨_, rfl, rfl⟩
  | direct => exact ⟨_, rfl, rfl⟩

/-- A file object yields its content once, to every copy of its value alike. Open a path that
names a file holding `c`, any number of times, and call methods of the objects opened, by either
route, in any order. Each opening answers a new object. A read with no arguments answers `c`
decoded if no earlier such read reached the same object, and the empty text otherwise; a read
given arguments is an arity error, and moves nothing. -/
theorem file_object_yields_content_once (e : Engine) (path : String) (c : List UInt8)
    (uses : List FileUse) (hreg : e.registry.contains FileHandle.typeName = true)
    (hfile : e.files.resolve path = .ok (.file c)) (hrefers : FileUse.refersBack 0 uses = true) :
    ∃ replies, (FileUse.performAll path e.objects.length uses).run e =
        .ok replies (e.withOpened path c (FileUse.marksAfter [] uses)) ∧
      replies.length = uses.length ∧
      (∀ i u, uses[i]? = some u → u.opens = true →
        replies[i]?.bind Reply.result? =
          some (.ok (.object (FileUse.objectRef e.objects.length
            ((uses.take i).countP FileUse.opens))))) ∧
      (∀ i route k args, uses[i]? = some (.call route k "read" args) →
        (args = [] → replies[i]?.bind Reply.result? =
          some (.ok (.str (if (uses.take i).any (FileUse.readsFrom k) then ""
            else Text.decodeLossy c)))) ∧
        (args ≠ [] → ∃ err, replies[i]?.bind Reply.result? = some (.error err) ∧
          err.kind = .arityMismatch "read" 0 args.length)) := by
  have hrun := FileUse.performAll_run hreg hfile uses [] hrefers
  rw [Engine.withOpened_nil] at hrun
  refine ⟨_, hrun, List.length_mapIdx, fun i u hu hopens => ?_, fun i route k args hu => ?_⟩
  · -- an opening answers the object counted by the openings before it
    rw [List.getElem?_mapIdx, hu]
    cases u with
    | opening route =>
      simp [FileUse.expectedReply, OpenRoute.result?_reply, FileUse.marksAfter_length]
    | call => cases hopens
  · -- a read answers by the mark of its object, which an earlier read set
    have hmark := FileUse.marksAfter_getD [] (uses.take i) (FileUse.refersBack_take hrefers i) k
    rw [List.getElem?_mapIdx, hu]
    simp only [Option.map_some, Option.bind_some, FileUse.expectedReply, hmark, fileAnswer,
      if_true]
    refine ⟨fun hargs => ?_, fun hargs => ?_⟩
    · rw [if_pos hargs]
      exact MethodRoute.result?_reply_ok _ _ _ _ _
    · rw [if_neg hargs]
      exact MethodRoute.result?_reply_error _ _ _ _ _

/-- `a.txt` holds `hi`. The first read of an object made by `construct` answers `hi`; a read of
the same object asked directly answers nothing; a read given an argument is an arity error; and
an object opened afresh starts again at `hi`. -/
theorem file_read_once_then_empty :
    ∃ replies e', (FileUse.performAll "a.txt" 0 [.opening .construct, .call .engine 0 "read" [],
        .call .direct 0 "read" [], .call .engine 0 "read" [.int 1], .opening .direct,
        .call .direct 1 "read" []]).run (Engine.standard ⟨[(["a.txt"], .file [104, 105])]⟩) =
        .ok replies e' ∧
      replies[1]?.bind Reply.result? = some (.ok (.str "hi")) ∧
      replies[2]?.bind Reply.result? = some (.ok (.str "")) ∧
      (∃ err, replies[3]?.bind Reply.result? = some (.error err) ∧
        err.kind = .arityMismatch "read" 0 1) ∧
      replies[5]?.bind Reply.result? = some (.ok (.str "hi")) := by
  have hfile : FileSystem.resolve ⟨[(["a.txt"], .file [104, 105])]⟩ "a.txt" =
      .ok (.file [104, 105]) := rfl
  obtain ⟨replies, hrun, -, -, hread⟩ := file_object_yields_content_once
    (Engine.standard ⟨[(["a.txt"], .file [104, 105])]⟩) "a.txt" [104, 105]
    [.opening .construct, .call .engine 0 "read" [], .call .direct 0 "read" [],
      .call .engine 0 "read" [.int 1], .opening .direct, .call .direct 1 "read" []]
    (by decide) hfile (by decide)
  -- each read's text is decided by the reads before it
  refine ⟨replies, _, hrun, ?_, ?_, ?_, ?_⟩
  · exact ((hread 1 .engine 0 [] rfl).1 rfl).trans
      (congrArg (fun t => some (Except.ok (Value.str t))) (by decide))
  · exact ((hread 2 .direct 0 [] rfl).1 rfl).trans
      (congrArg (fun t => some (Except.ok (Value.str t))) (by decide))
  · exact (hread 3 .engine 0 [.int 1] rfl).2 (by decide)
  · exact ((hread 5 .direct 1 [] rfl).1 rfl).trans
      (congrArg (fun t => some (Except.ok (Value.str t))) (by decide))

end ScriptCore
