import ScriptCore.Engine.Session
import ScriptCore.Proofs.MismatchPolicy

set_option autoImplicit false

/-! # What a buffer records

A host reaches the output built-ins by three routes: the engine's own `output`, `call` on a
built-in's function value, and `callValue` on it, where the values are those `Engine.builtin?`
and `Engine.builtins` hand out. It reads the sink with `readOutput`, empties it with
`takeOutput`, which answers what it held, and with `clearOutput`.

Main statement: `buffer_records_successful_output`. Along any sequence of such uses, a buffer
holds exactly the texts written by the successful uses since the last `take` or `clear`, in
order (`recorded`): the display of the one or two arguments, and for `print` a line feed after
them. A use with another number of arguments is an error naming the built-in and the count and
writes nothing, and each successful use answers `NULL`. A silent sink gives the same answers
while its readers always see nothing.

The proof is one step lemma, `OutputUse.perform_run`, which gives a use's reply and the sink
after it, and the run lemma `OutputUse.performAll_run` by induction on the uses; `recorded_cons`
moves the closed form one use along. -/

namespace ScriptCore

/-- How a host reaches an output built-in. -/
inductive Route where
  /-- The engine's own `output`. -/
  | engine
  /-- The engine's `call` on the built-in's function value, which narrows. -/
  | call
  /-- A call of the built-in's function value with no narrowing. -/
  | callValue

/-- One use of the output built-ins, or of the sink's readers. -/
inductive OutputUse where
  | emit (route : Route) (b : Builtin) (args : List Value)
  | read
  | take
  | clear

/-- Runs an output built-in by a route. -/
def Route.run (route : Route) (b : Builtin) (args : List Value) :
    EngineM (Except EvalError Value) :=
  match route with
  | .engine => Engine.output b args
  | .call => Engine.call b.value args
  | .callValue => Engine.callValue b.value args

namespace OutputUse

/-- Performs a use on the engine. -/
def perform : OutputUse → EngineM Reply
  | .emit route b args => do return .result (← route.run b args)
  | .read => do return .output (← Engine.readOutput)
  | .take => do return .output (← Engine.takeOutput)
  | .clear => do
    Engine.clearOutput
    return .cleared

/-- Performs uses in order, collecting their replies. -/
def performAll : List OutputUse → EngineM (List Reply)
  | [] => pure []
  | u :: us => do
    let reply ← u.perform
    let replies ← performAll us
    return reply :: replies

end OutputUse

/-! ## The rule -/

/-- A built-in's text as written: `print` ends it with a line feed. -/
def Builtin.finish : Builtin → String → String
  | .print, t => t ++ "\n"
  | .write, t => t

/-- What an output built-in writes for its arguments when it takes them: the display of its
one or two arguments, one after the other. -/
def Builtin.written? (b : Builtin) : List Value → Option String
  | [v] => some (b.finish v.display)
  | [v, w] => some (b.finish (v.display ++ w.display))
  | _ => none

namespace OutputUse

/-- The text a use adds to a buffer. -/
def written : OutputUse → Option String
  | .emit _ b args => b.written? args
  | _ => none

/-- Whether a use empties the buffer. -/
def resets : OutputUse → Bool
  | .take | .clear => true
  | _ => false

/-- The reply to a use while a reader of the sink sees `shown`: `NULL` for an output built-in
given one or two arguments, an error naming it and the count for any other number, and the
text seen for `read` and `take`. -/
def expectedReply (shown : String) : OutputUse → Reply
  | .emit _ b args =>
    if args.length = 1 ∨ args.length = 2 then .result (.ok .null)
    else .result (.error (.ofKind (.arityOutOfRange b.name 1 2 args.length)))
  | .read | .take => .output shown
  | .clear => .cleared

end OutputUse

/-- The uses after the last one that empties the buffer; all of them if none does. -/
def sinceReset : List OutputUse → List OutputUse
  | [] => []
  | u :: us => if us.any (·.resets) then sinceReset us else if u.resets then us else u :: us

/-- The text a buffer holding `k` holds after `uses`: the texts of the successful uses since
the last `take` or `clear`, in order, after `k` if no use emptied it. -/
def recorded (k : String) (uses : List OutputUse) : String :=
  (if uses.any (·.resets) then "" else k) ++ String.join ((sinceReset uses).filterMap (·.written))

theorem sinceReset_of_any_eq_false {uses : List OutputUse} (h : uses.any (·.resets) = false) :
    sinceReset uses = uses := by
  induction uses with
  | nil => rfl
  | cons u us ih =>
    simp only [List.any_cons, Bool.or_eq_false_iff] at h
    simp [sinceReset, h.1, h.2]

@[simp] theorem recorded_nil (k : String) : recorded k [] = k := by
  simp [recorded, sinceReset, String.join_nil]

/-- One use moves the buffer along: emptied by a reset, extended by what a use writes. -/
theorem recorded_cons (k : String) (u : OutputUse) (us : List OutputUse) :
    recorded k (u :: us) = recorded (if u.resets then "" else k ++ u.written.getD "") us := by
  by_cases hus : us.any (·.resets) = true
  · -- a later reset decides, whatever came before
    simp [recorded, sinceReset, hus]
  · have hus' : us.any (·.resets) = false := by simpa using hus
    have hsince := sinceReset_of_any_eq_false hus'
    by_cases hu : u.resets = true
    · simp [recorded, sinceReset, hus', hu, hsince]
    · have hu' : u.resets = false := by simpa using hu
      cases hw : u.written with
      | none => simp [recorded, sinceReset, hus', hu', hsince, hw]
      | some t =>
        simp [recorded, sinceReset, hus', hu', hsince, hw, String.join_cons,
          String.append_assoc]

/-! ## One use -/

/-- A built-in writes for exactly one or two arguments. -/
theorem Builtin.written?_isSome (b : Builtin) (args : List Value) :
    (b.written? args).isSome ↔ args.length = 1 ∨ args.length = 2 := by
  rcases args with _ | ⟨v, _ | ⟨w, _ | ⟨x, rest⟩⟩⟩ <;> simp [Builtin.written?]

theorem Builtin.run_eq (b : Builtin) (args : List Value) (s : Sink) :
    b.run args s =
      if args.length = 1 ∨ args.length = 2 then (.ok .null, s.write ((b.written? args).getD ""))
      else (.error (.ofKind (.arityOutOfRange b.name 1 2 args.length)), s) := by
  rcases args with _ | ⟨v, _ | ⟨w, _ | ⟨x, rest⟩⟩⟩ <;> cases b <;>
    simp [Builtin.run, Builtin.text, Builtin.written?, Builtin.finish]

/-- Every route runs the built-in on the engine's sink. -/
theorem Route.run_run (route : Route) (b : Builtin) (args : List Value) (e : Engine) :
    (route.run b args).run e =
      .ok (b.run args e.sink).1 { e with sink := (b.run args e.sink).2 } := by
  cases route with
  | engine => rfl
  | callValue => rfl
  | call =>
    -- both narrowings pass: the callee is a function, and the built-in's result is no type
    -- mismatch
    have hcallee : Harmless b.value.asFunction := by rintro _ ⟨⟩
    have hnative := Builtin.run_harmless b args e.sink
    simp only [Route.run, Engine.call, EStateM.run_bind, Engine.narrow_run_of_harmless hcallee]
    simp only [Builtin.value, Value.asFunction, EStateM.run_bind, Engine.runNative_run]
    exact Engine.narrow_run_of_harmless hnative _

/-- The sink after a use: a successful output built-in writes its text, `take` and `clear`
drop the kept text, and everything else leaves it as it is. -/
def Sink.afterUse (s : Sink) (u : OutputUse) : Sink :=
  if u.resets then s.clear
  else match u.written with
    | some t => s.write t
    | none => s

/-- One use: its reply is the one expected from what the sink shows, and the sink moves on by
`Sink.afterUse`. -/
theorem OutputUse.perform_run (u : OutputUse) (e : Engine) :
    u.perform.run e = .ok (u.expectedReply e.sink.output) { e with sink := e.sink.afterUse u } := by
  cases u with
  | emit route b args =>
    simp only [OutputUse.perform, EStateM.run_bind, Route.run_run, Builtin.run_eq]
    by_cases hargs : args.length = 1 ∨ args.length = 2
    · -- one or two arguments: the text is written and the reply is `NULL`
      obtain ⟨t, ht⟩ := Option.isSome_iff_exists.mp ((b.written?_isSome args).mpr hargs)
      simp [hargs, ht, OutputUse.expectedReply, Sink.afterUse, OutputUse.resets,
        OutputUse.written]
    · have hw : b.written? args = none :=
        Option.not_isSome_iff_eq_none.mp (mt (b.written?_isSome args).mp hargs)
      simp [hargs, hw, OutputUse.expectedReply, Sink.afterUse, OutputUse.resets,
        OutputUse.written]
  | read => rfl
  | take => rfl
  | clear => rfl

/-! ## A run of uses -/

/-- What a reader of the sink `s` sees after `uses`: `recorded` for a buffer, and nothing for
the other sinks. -/
def Sink.shownAfter (s : Sink) (uses : List OutputUse) : String :=
  if s.kind = .buffer then recorded s.kept uses else ""

theorem Sink.shownAfter_nil (s : Sink) : s.shownAfter [] = s.output := by
  unfold Sink.shownAfter Sink.output
  cases s.kind <;> simp

theorem Sink.afterUse_kind (s : Sink) (u : OutputUse) : (s.afterUse u).kind = s.kind := by
  unfold Sink.afterUse
  split
  · rfl
  · split
    · unfold Sink.write
      split <;> rfl
    · rfl

theorem Sink.afterUse_kept {s : Sink} (h : s.kind = .buffer) (u : OutputUse) :
    (s.afterUse u).kept = if u.resets then "" else s.kept ++ u.written.getD "" := by
  unfold Sink.afterUse
  split
  · rfl
  · split
    · rename_i t ht
      simp [Sink.write, h, ht]
    · rename_i ht
      simp [ht]

/-- What the sink shows after more uses, one use along. -/
theorem Sink.shownAfter_afterUse (s : Sink) (u : OutputUse) (us : List OutputUse) :
    (s.afterUse u).shownAfter us = s.shownAfter (u :: us) := by
  unfold Sink.shownAfter
  rw [Sink.afterUse_kind]
  split
  · rename_i h
    rw [Sink.afterUse_kept h, recorded_cons]
  · rfl

/-- A run of uses: the `i`-th reply is the one expected from what the sink shows after the
first `i` uses, and the sink ends showing what it shows after all of them. -/
theorem OutputUse.performAll_run (uses : List OutputUse) (e : Engine) :
    ∃ e', (performAll uses).run e =
        .ok (uses.mapIdx fun i u => u.expectedReply (e.sink.shownAfter (uses.take i))) e' ∧
      e'.sink.kind = e.sink.kind ∧ e'.sink.output = e.sink.shownAfter uses := by
  induction uses generalizing e with
  | nil => exact ⟨e, rfl, rfl, (Sink.shownAfter_nil e.sink).symm⟩
  | cons u us ih =>
    -- the first use moves the sink on by `afterUse`; the rest run from there
    obtain ⟨e', hrun, hkind, hout⟩ := ih { e with sink := e.sink.afterUse u }
    have hshown : ∀ l, (e.sink.afterUse u).shownAfter l = e.sink.shownAfter (u :: l) :=
      Sink.shownAfter_afterUse e.sink u
    refine ⟨e', ?_, ?_, ?_⟩
    · simp only [performAll, EStateM.run_bind, perform_run, hrun, List.mapIdx_cons,
        List.take_zero, List.take_succ_cons, Sink.shownAfter_nil, hshown]
      rfl
    · rw [hkind]
      exact Sink.afterUse_kind e.sink u
    · rw [hout]
      exact hshown us

theorem Sink.shownAfter_of_buffer {s : Sink} (h : s.kind = .buffer) (uses : List OutputUse) :
    s.shownAfter uses = recorded s.kept uses := by
  simp [Sink.shownAfter, h]

theorem Sink.shownAfter_of_silent {s : Sink} (h : s.kind = .silent) (uses : List OutputUse) :
    s.shownAfter uses = "" := by
  simp [Sink.shownAfter, h]

/-! ## The values the engine hands out -/

theorem Builtin.ofName?_eq_some {name : String} {b : Builtin} :
    Builtin.ofName? name = some b ↔ b.name = name := by
  constructor
  · intro h
    simpa using List.find?_some h
  · rintro rfl
    cases b <;> simp [Builtin.ofName?, Builtin.name]

/-- The function value of a name is the value of the built-in of that name. -/
theorem Engine.builtin?_eq_some {name : String} {v : Value} :
    Engine.builtin? name = some v ↔ ∃ b : Builtin, b.name = name ∧ b.value = v := by
  simp only [Engine.builtin?, Option.map_eq_some_iff, Builtin.ofName?_eq_some]

/-- Along every sequence of uses, a buffer holds the texts of the successful uses since the last
`take` or `clear`, and each use gets the reply expected from what the buffer held before it:
`NULL` for an output built-in given one or two arguments, an error naming it and the count for
any other number, and the text held for `read` and `take`. A silent sink gives the same replies
while its readers see nothing. The function values the engine hands out by name, and in its
list, are the built-ins' own, so calling them is covered by the routes. -/
theorem buffer_records_successful_output (e : Engine) (uses : List OutputUse) :
    (e.sink.kind = .buffer →
      ∃ e', (OutputUse.performAll uses).run e =
          .ok (uses.mapIdx fun i u => u.expectedReply (recorded e.sink.kept (uses.take i))) e' ∧
        e'.sink.kind = .buffer ∧ e'.sink.kept = recorded e.sink.kept uses) ∧
    (e.sink.kind = .silent →
      ∃ e', (OutputUse.performAll uses).run e = .ok (uses.map (·.expectedReply "")) e' ∧
        e'.sink.kind = .silent) ∧
    (∀ name v, Engine.builtin? name = some v ↔ ∃ b : Builtin, b.name = name ∧ b.value = v) ∧
    (∀ entry ∈ Engine.builtins, Engine.builtin? entry.1 = some entry.2) := by
  obtain ⟨e', hrun, hkind, hout⟩ := OutputUse.performAll_run uses e
  refine ⟨fun hbuf => ?_, fun hsilent => ?_, fun _ _ => Engine.builtin?_eq_some, ?_⟩
  · -- a buffer shows what it keeps, and what it keeps is `recorded`
    simp only [Sink.shownAfter_of_buffer hbuf] at hrun hout
    refine ⟨e', hrun, hkind.trans hbuf, ?_⟩
    have hshows : e'.sink.output = e'.sink.kept := by
      simp [Sink.output, hkind, hbuf]
    rw [← hshows, hout]
  · -- a silent sink shows nothing, before and after every use
    simp only [Sink.shownAfter_of_silent hsilent] at hrun
    have hmap : (uses.mapIdx fun _ u => u.expectedReply "") = uses.map (·.expectedReply "") := by
      rw [List.mapIdx_eq_iff]
      intro i
      simp
    exact ⟨e', hmap ▸ hrun, hkind.trans hsilent⟩
  · intro entry hentry
    simp only [Engine.builtins, List.map_cons, List.map_nil, List.mem_cons, List.not_mem_nil,
      or_false] at hentry
    rcases hentry with rfl | rfl <;> exact Engine.builtin?_eq_some.mpr ⟨_, rfl, rfl⟩

/-- A fresh buffer: `write` by the engine, a `print` of two values through `call`, a `print`
with no arguments called as a plain value, then `take`, which answers all that was written and
leaves the buffer empty. -/
theorem buffer_take_after_write_and_print :
    ∃ e', (OutputUse.performAll [.emit .engine .write [.str "a"],
        .emit .call .print [.str "b", .int 2], .emit .callValue .print [], .take]).run
        (Engine.create Settings.default Registry.standard .buffer FileSystem.empty) =
      .ok [.result (.ok .null), .result (.ok .null),
        .result (.error (.ofKind (.arityOutOfRange "print" 1 2 0))), .output "ab2\n"] e' ∧
      e'.sink.kept = "" := by
  obtain ⟨e', hrun, -, hkept⟩ := (buffer_records_successful_output
    (Engine.create Settings.default Registry.standard .buffer FileSystem.empty)
    [.emit .engine .write [.str "a"], .emit .call .print [.str "b", .int 2],
      .emit .callValue .print [], .take]).1 rfl
  exact ⟨e', hrun.trans rfl, hkept.trans rfl⟩

end ScriptCore
